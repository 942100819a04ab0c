import BuildAgent.Proofs.Execution.Acting
import BuildAgent.Proofs.Monitor.Finality
import Mathlib.Data.List.Induction

/-!
# The order in which sessions are opened

A reboot opens its session in the step with which it gets the session lock, and the number of the
session is one more than the last. `Execution.openings` lists the tasks that open a session, in that
order. So the place of a reboot in the list is the number of its session, counted from the sessions
that there were before, and that is what the reboot returns (`Execution.Numbered`).
-/

namespace BuildAgent

namespace Point

/-- The session of a reboot that has opened it. -/
def opened? : Point → Option Nat
  | rebooting _ inner => inner.session?
  | _ => none

variable {point next : Point} {world after : World} {session : Nat}

theorem opened?_of_isEntrance (entrance : next.isEntrance = true) : next.opened? = none := by
  cases next with
  | rebooting afterBuild inner =>
      cases inner with
      | entering => rfl
      | _ => cases afterBuild <;> cases entrance
  | _ => rfl

theorem opened?_entry (request : Request) : request.entry.opened? = none := by
  cases request <;> rfl

theorem generation_of_isAboutToOpen (opens : point.isAboutToOpen = true) (world : World) :
    (point.resume world).world.node.session.generation = world.node.session.generation + 1 ∧
      ∃ next, (point.resume world).point? = some next ∧
        next.opened? = some (world.node.session.generation + 1) := by
  rcases rebooting_of_isAboutToOpen opens with ⟨afterBuild, rfl⟩
  rcases RebootPoint.begin_eq world with ⟨inner, after, begun, works, resets, _⟩
  simp only [resume, RebootPoint.resume, begun, Stage.andThen_pause]
  exact ⟨congrArg Reboot.Session.generation resets.session, _, rfl, works⟩

/-- A reboot goes on with the session that it has opened. -/
theorem opened?_of_resume (works : point.opened? = some session)
    (paused : point.resume world = .pause next after) : next.opened? = some session := by
  cases point with
  | rebooting afterBuild inner =>
      rcases RebootPoint.resume_eq works world with
        ⟨later, middle, goes, own, _⟩ | ⟨middle, delay, ended, _⟩
      · rw [resume, goes] at paused
        cases paused
        exact own
      · rw [resume, ended, Stage.andThen_done] at paused
        exact absurd paused afterReboot_ne_pause
  | _ => cases works

/-- A task comes to a session only by opening it. -/
theorem opened?_of_next (paused : point.resume world = .pause next after)
    (works : next.opened? = some session) :
    point.opened? = some session ∨ point.isAboutToOpen = true := by
  cases leads_of_resume paused with
  | rebooting afterBuild begun =>
      rename_i inner later
      rcases own : inner.session? with _ | other
      · cases inner with
        | entering =>
            simp only [RebootPoint.resume] at begun
            split at begun
            · cases begun
            · cases begun
              cases works
        | waiting => exact .inr rfl
        | _ => cases own
      · have opened : (rebooting afterBuild inner).opened? = some other := own
        have kept := opened?_of_resume opened paused
        rw [works] at kept
        exact .inl (own.trans kept.symm)
  | elsewhere entrance =>
      rw [opened?_of_isEntrance entrance] at works
      cases works
  | _ => cases works

/-- On a node that is not retired a reboot ends with the number of the session that it opened. -/
theorem opened?_of_rebooted {inner : RebootPoint} {answer : Answer}
    (managed : world.node.retired = false)
    (ended : (rebooting false inner).resume world = .done answer after) :
    ∃ session, inner.session? = some session ∧ answer = .rebooted (.ok session) := by
  rcases works : inner.session? with _ | session
  · cases inner with
    | entering =>
        simp only [resume, RebootPoint.resume, managed, Bool.false_eq_true, if_false] at ended
        cases ended
    | waiting =>
        rcases RebootPoint.begin_eq world with ⟨later, middle, begun, _⟩
        simp only [resume, RebootPoint.resume, begun, Stage.andThen_pause] at ended
        cases ended
    | _ => cases works
  · rcases RebootPoint.resume_eq works world with
      ⟨later, middle, goes, _⟩ | ⟨middle, delay, finished, _⟩
    · rw [resume, goes] at ended
      cases ended
    · rw [resume, finished, Stage.andThen_done] at ended
      cases ended
      exact ⟨session, rfl, rfl⟩

end Point

/-- The number of a task that is about to open a session. -/
def Task.opens? (task : Task) : Option Nat :=
  if task.point.isAboutToOpen then some task.number else none

namespace Execution

/-- The numbers of the tasks that open a session while moves are made, in the order in which they
get the session lock. -/
def openings (execution : Execution) (moves : List Move) : List Nat :=
  execution.observed Task.opens? moves

variable {start before after execution : Execution} {move : Move} {task : Task}
  {openings : List Nat}

/-- What the tasks that have opened a session since a moment tell about the numbers of sessions. -/
structure Numbered (start : Execution) (openings : List Nat) (execution : Execution) : Prop where
  generation : execution.world.node.session.generation =
    start.world.node.session.generation + openings.length
  apart : openings.Nodup
  given : ∀ number, number ∈ openings → number < execution.nextNumber
  /-- A task that has opened a session works on it for as long as it is under way. -/
  working : ∀ task, task ∈ execution.running → task.number ∈ openings →
    task.point.opened?.isSome = true
  opened : ∀ task session, task ∈ execution.running → start.nextNumber ≤ task.number →
    task.point.opened? = some session → ∃ place, openings[place]? = some task.number ∧
      session = start.world.node.session.generation + place + 1
  returned : ∀ number answer, ⟨number, .reboot, answer⟩ ∈ execution.reports →
    start.nextNumber ≤ number → ∃ place, openings[place]? = some number ∧
      answer = .rebooted (.ok (start.world.node.session.generation + place + 1))

namespace Numbered

theorem refl (orderly : start.Orderly) (accounted : start.Accounted) : start.Numbered [] start := by
  refine ⟨rfl, List.nodup_nil, ?_, ?_, ?_, ?_⟩
  · intro number opened
    cases opened
  · intro task running opened
    cases opened
  · intro task session running late
    have numbered := orderly.numbered task running
    omega
  · intro number answer reported late
    have numbered := accounted.given _ reported
    dsimp only at numbered
    omega

theorem of_silent (numbered : start.Numbered openings before) (faithful : before.Faithful)
    (silent : before.Silent move after) : start.Numbered openings after := by
  refine ⟨?_, numbered.apart, ?_, ?_, ?_, ?_⟩
  · rw [silent.session_eq]
    exact numbered.generation
  · intro number opened
    exact Nat.lt_of_lt_of_le (numbered.given number opened) silent.step.nextNumber_le
  · intro task running opened
    rcases silent.mem_running running with
      old | ⟨_, fresh, _⟩ | ⟨own, _, watch, among, same, stood, _⟩
    · exact numbered.working task old opened
    · have given := numbered.given _ opened
      omega
    · have works := numbered.working own among (same ▸ opened)
      rw [stood] at works
      cases works
  · intro task session running late works
    rcases silent.mem_running running with old | ⟨stands, _⟩ | ⟨_, _, _, _, _, _, stands⟩
    · exact numbered.opened task session old late works
    · rw [stands, Point.opened?_entry] at works
      cases works
    · rw [stands] at works
      cases works
  · intro number answer reported late
    rcases silent.mem_reports reported with old | ⟨task, watch, exit, running, stands, same⟩
    · exact numbered.returned number answer old late
    · simp only [Report.mk.injEq] at same
      rcases faithful.rebooting running same.2.1.symm with ⟨inner, reboots⟩
      rw [reboots] at stands
      cases stands

theorem of_opens (numbered : start.Numbered openings before) (sound : before.Sound)
    {earlier later : List Task} (split : before.running = earlier ++ task :: later)
    (opens : task.point.isAboutToOpen = true) :
    start.Numbered (openings ++ [task.number])
      (before.replace earlier task later (task.point.resume before.world)) := by
  have running := mem_of_eq_append split
  rcases Point.generation_of_isAboutToOpen opens before.world with ⟨grows, next, goes, works⟩
  have fresh : task.number ∉ openings := by
    intro opened
    have own := numbered.working task running opened
    rcases Point.rebooting_of_isAboutToOpen opens with ⟨afterBuild, stands⟩
    rw [stands] at own
    cases own
  have kept : ∀ {number place : Nat}, openings[place]? = some number →
      (openings ++ [task.number])[place]? = some number := by
    intro number place found
    rw [List.getElem?_append_left (List.getElem?_eq_some_iff.mp found).1]
    exact found
  generalize task.point.resume before.world = stage at grows goes
  cases stage with
  | done answer world => cases goes
  | pause point world =>
      cases goes
      refine ⟨?_, ?_, ?_, ?_, ?_, ?_⟩
      · have generation := numbered.generation
        simp only [replace, Stage.world] at grows ⊢
        simp only [List.length_append, List.length_singleton]
        omega
      · rw [List.nodup_append]
        refine ⟨numbered.apart, List.pairwise_singleton _ _, ?_⟩
        rintro number opened own only rfl
        exact fresh (List.mem_singleton.mp only ▸ opened)
      · intro number opened
        rw [List.mem_append, List.mem_singleton] at opened
        rcases opened with old | rfl
        · exact numbered.given number old
        · exact sound.orderly.numbered task running
      · intro other others opened
        rw [List.mem_append, List.mem_singleton] at opened
        rcases mem_replace.mp others with left | still
        · rcases mem_remaining left with ⟨_, _, paused, rfl⟩
          cases paused
          rw [works]
          rfl
        · have apart := (sound.orderly.excludes split still).number
          exact numbered.working other (mem_of_split split still)
            (opened.resolve_right fun same => apart same.symm)
      · intro other session others started own
        rcases mem_replace.mp others with left | still
        · rcases mem_remaining left with ⟨_, _, paused, rfl⟩
          cases paused
          rw [works] at own
          cases own
          refine ⟨openings.length, by simp, ?_⟩
          rw [numbered.generation]
        · rcases numbered.opened other session (mem_of_split split still) started own with
            ⟨place, found, same⟩
          exact ⟨place, kept found, same⟩
      · intro number answer reported started
        rcases numbered.returned number answer reported started with ⟨place, found, same⟩
        exact ⟨place, kept found, same⟩

theorem of_works (numbered : start.Numbered openings before) (sound : before.Sound)
    (faithful : before.Faithful) (managed : before.world.node.retired = false)
    {earlier later : List Task} (split : before.running = earlier ++ task :: later)
    (takes : before.Takes task move (task.point.resume before.world))
    (other : task.point.isAboutToOpen = false) : start.Numbered openings
      (before.replace earlier task later (task.point.resume before.world)) := by
  have running := mem_of_eq_append split
  have same : (task.point.resume before.world).world.node.session.generation =
      before.world.node.session.generation := by
    by_contra opens
    simp [(takes.opens sound.guarded running opens).2] at other
  refine ⟨same.trans numbered.generation, numbered.apart, numbered.given, ?_, ?_, ?_⟩
  · intro moved others opened
    rcases mem_replace.mp others with left | still
    · rcases mem_remaining left with ⟨next, world, paused, rfl⟩
      rcases Option.isSome_iff_exists.mp (numbered.working task running opened) with
        ⟨session, works⟩
      simp [Point.opened?_of_resume works paused]
    · exact numbered.working moved (mem_of_split split still) opened
  · intro moved session others started works
    rcases mem_replace.mp others with left | still
    · rcases mem_remaining left with ⟨next, world, paused, rfl⟩
      rcases Point.opened?_of_next paused works with own | opens
      · exact numbered.opened task session running started own
      · simp [opens] at other
    · exact numbered.opened moved session (mem_of_split split still) started works
  · intro number answer reported started
    rcases List.mem_append.mp reported with ends | old
    · cases ended : task.point.resume before.world with
      | pause next world =>
          rw [ended] at ends
          cases ends
      | done result world =>
          rw [ended, Stage.reported, List.mem_singleton, Report.mk.injEq] at ends
          rcases ends with ⟨rfl, asked, rfl⟩
          rcases faithful.rebooting running asked.symm with ⟨inner, reboots⟩
          rw [reboots] at ended
          rcases Point.opened?_of_rebooted managed ended with ⟨session, works, rfl⟩
          rcases numbered.opened task session running started (by rw [reboots]; exact works) with
            ⟨place, found, rfl⟩
          exact ⟨place, found, rfl⟩
    · exact numbered.returned number answer old started

theorem apply (numbered : start.Numbered openings before) (sound : before.Sound)
    (faithful : before.Faithful) (managed : before.world.node.retired = false) (move : Move) :
    start.Numbered (openings ++ ((before.acting? move).bind Task.opens?).toList)
      (before.apply move) := by
  rcases acts_or_silent sound.orderly move with
    ⟨task, earlier, later, acts, split, takes, moved⟩ | ⟨still, silent⟩
  · rw [acts, moved]
    rcases opens : task.point.isAboutToOpen with _ | _
    · simpa [Task.opens?, opens] using
        numbered.of_works sound faithful managed split takes opens
    · simpa [Task.opens?, opens] using numbered.of_opens sound split opens
  · simpa [still] using numbered.of_silent faithful silent

end Numbered

end Execution

namespace Outset

/-- A node that is not retired was never retired. -/
theorem managed_run (outset : Outset) (earlier later : List Move)
    (managed : (outset.execution.run (earlier ++ later)).world.node.retired = false) :
    (outset.execution.run earlier).world.node.retired = false := by
  by_contra retired
  have since := outset.retiredSince_run earlier later (by simpa using retired)
  simp [since.retired] at managed

theorem numbered_run (outset : Outset) (earlier later : List Move)
    (managed : (outset.execution.run (earlier ++ later)).world.node.retired = false) :
    (outset.execution.run earlier).Numbered ((outset.execution.run earlier).openings later)
      (outset.execution.run (earlier ++ later)) := by
  induction later using List.reverseRecOn with
  | nil =>
      rw [List.append_nil]
      exact .refl (outset.sound_run earlier).orderly (outset.accounted_run earlier)
  | append_singleton moves move hypothesis =>
      rw [← List.append_assoc] at managed ⊢
      have still := outset.managed_run (earlier ++ moves) [move] managed
      have moved := (hypothesis still).apply (outset.sound_run _) (outset.faithful_run _) still move
      rw [Execution.openings, Execution.observed_concat, ← Execution.run_append]
      rw [Execution.run_append _ (earlier ++ moves)]
      exact moved

end Outset

end BuildAgent
