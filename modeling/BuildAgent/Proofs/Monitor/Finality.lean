import BuildAgent.Proofs.Execution.Guise
import BuildAgent.Proofs.Monitor.Detached
import BuildAgent.Proofs.Monitor.OfflineCause

/-!
# Retirement is final and quiet

A node that was retired stays retired and detached. Its tasks leave the endpoint alone, whatever
else they do; only a disconnection that had got hold of the endpoint by then still asks the agent to
exit and tears the channel down. No look of the monitor schedules another, and reboots that come
later are refused, so once the tasks of that time have ended the scheduler only runs out of looks:
what it held is what it runs and what it still holds (`Execution.DetachedSince.jobs_run`). When the
last look has run no session is live.

A node that nobody holds and no task works on is gone, and a look that is due finds nothing.

`Outset.retirement_is_final` puts all this together.
-/

namespace BuildAgent

namespace Execution

variable {start before after execution : Execution} {move : Move} {task : Task}

/-! ## Moves and the endpoint -/

/-- Whether a move makes no call of the endpoint: whatever endpoint the node has, the move is the
same and leaves that endpoint as it is. Nor does the move start a connection. -/
structure SparesEndpoint (execution : Execution) (move : Move) : Prop where
  same : ∀ endpoint,
    (execution.facing endpoint).apply move = (execution.apply move).facing endpoint
  goesOn : GoesOn execution.world.transfers (execution.apply move).world.transfers

/-- Whether a move is the step of a disconnection that was under way before: the agent is asked to
exit and the channel is torn down, which is all that is done to the endpoint. -/
def Departs (start execution : Execution) (move : Move) : Prop :=
  ∃ task cause, task ∈ start.running ∧ task ∈ execution.running ∧
    task.point.parting? = some cause ∧ move = .resume task.number ∧
    (execution.apply move).world.endpoint =
      (execution.world.endpoint.requestShutdown.2.teardown cause).2 ∧
    GoesOn execution.world.transfers (execution.apply move).world.transfers

/-- No connection is started on a detached node. -/
theorem Step.goesOn_of_detached (step : before.Step move after)
    (detached : before.world.node.attached = false) :
    GoesOn before.world.transfers after.world.transfers := by
  cases step with
  | idle move => exact .refl _
  | outside move change changes => exact (Move.frame_outside changes before.world).2.2.1
  | started number request fresh => exact .refl _
  | looked number session delay agenda fresh scheduled =>
      rw [(before.world.frame_withAgenda delay agenda).2.2.1]
      exact .refl _
  | lost number session delay agenda scheduled dropped =>
      simp only [withWorld, World.frame_note, World.frame_withAgenda]
      exact .refl _
  | advanced move earlier later task stage split takes =>
      cases takes with
      | resume ready => exact task.point.goesOn_of_detached detached
      | notice news => exact (task.point.through_notice before.world).goesOn

/-- The endpoint of a node is attached until the node is retired. -/
theorem Step.coupled (sound : before.Sound) (step : before.Step move after)
    (coupled : before.world.node.attached = !before.world.node.retired) :
    after.world.node.attached = !after.world.node.retired := by
  cases step with
  | idle move => exact coupled
  | outside move change changes => exact (Move.coupled_outside changes coupled).1
  | started number request fresh => exact coupled
  | looked number session delay agenda fresh scheduled => simpa using coupled
  | lost number session delay agenda scheduled dropped => simpa [withWorld] using coupled
  | advanced move earlier later task stage split takes =>
      exact ((takes.effect sound.guarded (mem_of_eq_append split)).coupled coupled).1

/-! ## What is known since the retirement -/

/-- A task that is under way was so before the step, or was started by it. -/
theorem Step.number_of_mem (step : before.Step move after) (running : task ∈ after.running) :
    (∃ other, other ∈ before.running ∧ other.number = task.number) ∨
      before.nextNumber ≤ task.number := by
  cases step with
  | idle move => exact .inl ⟨task, running, rfl⟩
  | outside move change changes => exact .inl ⟨task, running, rfl⟩
  | started number request fresh =>
      rw [List.mem_append, List.mem_singleton] at running
      rcases running with old | rfl
      · exact .inl ⟨task, old, rfl⟩
      · exact .inr fresh
  | looked number session delay agenda fresh scheduled =>
      rw [List.mem_append, List.mem_singleton] at running
      rcases running with old | rfl
      · exact .inl ⟨task, old, rfl⟩
      · exact .inr fresh
  | lost number session delay agenda scheduled dropped => exact .inl ⟨task, running, rfl⟩
  | advanced move earlier later moved stage split takes =>
      rcases mem_replace.mp running with left | still
      · rcases mem_remaining left with ⟨next, world, _, rfl⟩
        exact .inl ⟨moved, mem_of_eq_append split, rfl⟩
      · exact .inl ⟨task, mem_of_split split still, rfl⟩

/-- What is known of an execution since the retirement of its node. -/
structure DetachedSince (start execution : Execution) : Prop where
  since : start.RetiredSince execution
  detached : execution.world.node.attached = false
  /-- A disconnection that is about to ask the agent to exit was about to do so then. -/
  parting : ∀ task cause, task ∈ execution.running → task.point.parting? = some cause →
    task ∈ start.running
  goesOn : GoesOn start.world.transfers execution.world.transfers
  numbers : start.nextNumber ≤ execution.nextNumber

namespace DetachedSince

theorem refl (retired : start.world.node.retired = true)
    (detached : start.world.node.attached = false) : start.DetachedSince start :=
  ⟨.refl retired, detached, fun _ _ running _ => running, .refl _, Nat.le_refl _⟩

theorem parting_step (since : start.DetachedSince before) (step : before.Step move after)
    {cause : Option OfflineCause} (running : task ∈ after.running)
    (parts : task.point.parting? = some cause) : task ∈ start.running := by
  cases step with
  | idle move => exact since.parting task cause running parts
  | outside move change changes => exact since.parting task cause running parts
  | started number request fresh =>
      rw [List.mem_append, List.mem_singleton] at running
      rcases running with old | rfl
      · exact since.parting task cause old parts
      · rw [Point.parting?_entry] at parts
        cases parts
  | looked number session delay agenda fresh scheduled =>
      rw [List.mem_append, List.mem_singleton] at running
      rcases running with old | rfl
      · exact since.parting task cause old parts
      · cases parts
  | lost number session delay agenda scheduled dropped =>
      exact since.parting task cause running parts
  | advanced move earlier later moved stage split takes =>
      rcases mem_replace.mp running with left | still
      · rcases mem_remaining left with ⟨next, world, stage_eq, rfl⟩
        have settled : next.parting? = none ∨ next = moved.point := by
          cases takes with
          | resume ready => exact .inl (Point.parting?_of_resume since.detached stage_eq)
          | notice news => exact (Point.parting?_of_notice stage_eq).symm
        rcases settled with none_left | rfl
        · rw [none_left] at parts
          cases parts
        · exact since.parting moved cause (mem_of_eq_append split) parts
      · exact since.parting task cause (mem_of_split split still) parts

theorem step (since : start.DetachedSince before) (sound : before.Sound)
    (faithful : before.Faithful) (step : before.Step move after) : start.DetachedSince after := by
  have retired := since.since.step sound faithful step
  have coupled := step.coupled sound (by rw [since.detached, since.since.retired]; rfl)
  refine ⟨retired, ?_, ?_, since.goesOn.trans (step.goesOn_of_detached since.detached),
    Nat.le_trans since.numbers step.nextNumber_le⟩
  · rw [coupled, retired.retired]
    rfl
  · intro task cause running parts
    exact since.parting_step step running parts

/-- After the retirement a move leaves the endpoint alone, is one of the link, or is the step of a
disconnection that was under way. -/
theorem spares_or_departs (since : start.DetachedSince execution) (orderly : execution.Orderly)
    (move : Move) : execution.SparesEndpoint move ∨ move.isOfLink = true ∨
      start.Departs execution move := by
  have goesOn := (step_apply orderly move).goesOn_of_detached since.detached
  by_cases own : move.isOfLink = true
  · exact .inr (.inl own)
  by_cases departs : ∃ task cause, task ∈ execution.running ∧ move = .resume task.number ∧
      task.point.parting? = some cause
  · rcases departs with ⟨task, cause, running, rfl, parts⟩
    rcases Point.endpoint_of_parting parts execution.world with ⟨free, endpoint⟩
    have ready : execution.isReady task = true := by
      rw [isReady, free]
      rfl
    refine .inr (.inr ⟨task, cause, since.parting task cause running parts, running, parts, rfl,
      ?_, goesOn⟩)
    rw [(resume_of_mem orderly running ready).1]
    exact endpoint
  · left
    refine ⟨?_, goesOn⟩
    intro endpoint
    rw [← under_facing, ← under_facing]
    refine apply_under (.inr since.detached) (by simpa using own) ?_
    intro task running resumed
    right
    by_contra parts
    rcases Option.ne_none_iff_exists'.mp parts with ⟨cause, parts⟩
    exact departs ⟨task, cause, running, resumed, parts⟩

/-- A task that was started after the retirement makes no call of the endpoint. -/
theorem spares_of_late (since : start.DetachedSince execution) (startOrderly : start.Orderly)
    (orderly : execution.Orderly) {number : Nat} (late : start.nextNumber ≤ number) :
    execution.SparesEndpoint (.resume number) ∧ execution.SparesEndpoint (.notice number) := by
  have never : ∀ move, move = .resume number ∨ move = .notice number →
      ¬start.Departs execution move := by
    rintro move either ⟨task, cause, early, _, _, resumed, _⟩
    have numbered := startOrderly.numbered task early
    rcases either with rfl | rfl
    · cases resumed
      omega
    · cases resumed
  constructor
  · rcases since.spares_or_departs orderly (.resume number) with spares | link | departs
    · exact spares
    · cases link
    · exact absurd departs (never _ (.inl rfl))
  · rcases since.spares_or_departs orderly (.notice number) with spares | link | departs
    · exact spares
    · cases link
    · exact absurd departs (never _ (.inr rfl))

/-- No look schedules another, whether it was under way at the retirement or came later. -/
theorem agenda_of_looking (since : start.DetachedSince execution) (orderly : execution.Orderly)
    (running : task ∈ execution.running) {session : Nat} {inner : LookPoint}
    (looks : task.point = .looking session inner) :
    (execution.apply (.resume task.number)).world.agenda = execution.world.agenda := by
  by_cases ready : execution.isReady task = true
  · rw [(resume_of_mem orderly running ready).1]
    refine Point.agenda_of_detached since.since.retired since.detached ?_
    rw [looks]
    rfl
  · simp [apply, resume, task?_of_mem orderly running, ready]

/-- A task that was started after the retirement is not past the entrance of a reboot. -/
theorem outside_of_late (since : start.DetachedSince execution) (orderly : start.Orderly)
    (running : task ∈ execution.running) (late : start.nextNumber ≤ task.number) :
    task.point.isAdmitted = false := by
  by_contra admitted
  rcases since.since.admitted task running (by simpa using admitted) with ⟨other, early, same, _⟩
  have numbered := orderly.numbered other early
  omega

end DetachedSince

/-! ## The scheduler runs out of looks -/

/-- The session of the look that a move takes out of the agenda, if it takes one. -/
def taken? (execution : Execution) : Move → Option Nat
  | .runMonitor number =>
    if execution.nextNumber ≤ number then execution.world.scheduled?.map Prod.fst else none
  | _ => none

/-- The sessions of the looks that moves take out of the agenda, the earliest first. -/
def taken (execution : Execution) : List Move → List Nat
  | [] => []
  | move :: moves => (execution.taken? move).toList ++ (execution.apply move).taken moves

theorem jobs_runMonitor (execution : Execution) (number : Nat) :
    execution.world.agenda.jobs.Perm ((execution.taken? (.runMonitor number)).toList ++
      (execution.apply (.runMonitor number)).world.agenda.jobs) := by
  rcases scheduled : execution.world.scheduled? with _ | ⟨session, delay, agenda⟩
  · simp [taken?, apply, runMonitor, scheduled]
  · have perm := World.perm_of_scheduled? scheduled
    by_cases fresh : execution.nextNumber ≤ number
    · simp only [taken?, apply, runMonitor, scheduled, fresh, if_true]
      split
      · simpa [start, fresh] using perm
      · simpa [withWorld] using perm
    · simp [taken?, apply, runMonitor, scheduled, fresh]

namespace DetachedSince

/-- While only later tasks are under way, nobody but the scheduler touches the agenda. -/
theorem agenda_of_late (since : start.DetachedSince before) (orderly : start.Orderly)
    (late : ∀ task, task ∈ before.running → start.nextNumber ≤ task.number)
    (step : before.Step move after) (other : ∀ number, move ≠ .runMonitor number) :
    after.world.agenda = before.world.agenda := by
  cases step with
  | idle move => rfl
  | outside move change changes => exact (Move.frame_outside changes before.world).2.1
  | started number request fresh => rfl
  | looked number session delay agenda fresh scheduled => exact absurd rfl (other number)
  | lost number session delay agenda scheduled dropped => exact absurd rfl (other number)
  | advanced move earlier later task stage split takes =>
      cases takes with
      | resume ready =>
          have running := mem_of_eq_append split
          exact Point.agenda_of_detached since.since.retired since.detached
            (since.outside_of_late orderly running (late task running))
      | notice news => exact (task.point.through_notice before.world).agenda_eq

theorem late_step (since : start.DetachedSince before)
    (late : ∀ task, task ∈ before.running → start.nextNumber ≤ task.number)
    (step : before.Step move after) :
    ∀ task, task ∈ after.running → start.nextNumber ≤ task.number := by
  intro task running
  rcases step.number_of_mem running with ⟨other, old, same⟩ | fresh
  · rw [← same]
    exact late other old
  · exact Nat.le_trans since.numbers fresh

theorem late_run (since : start.DetachedSince execution) (sound : execution.Sound)
    (faithful : execution.Faithful)
    (late : ∀ task, task ∈ execution.running → start.nextNumber ≤ task.number)
    (moves : List Move) :
    ∀ task, task ∈ (execution.run moves).running → start.nextNumber ≤ task.number := by
  have all := sound.run_induction (fun _ => True) (fun later => start.DetachedSince later ∧
    later.Faithful ∧ ∀ task, task ∈ later.running → start.nextNumber ≤ task.number) ?_
    ⟨since, faithful, late⟩ moves fun _ _ => trivial
  · exact all.2.2
  · rintro before after move sound _ step ⟨since, faithful, late⟩
    exact ⟨since.step sound faithful step, faithful.step step, since.late_step late step⟩

/-- Once the tasks of the retirement have ended, what the scheduler held is what it has run since
and what it still holds. -/
theorem jobs_run (since : start.DetachedSince execution) (orderly : start.Orderly)
    (sound : execution.Sound) (faithful : execution.Faithful)
    (late : ∀ task, task ∈ execution.running → start.nextNumber ≤ task.number)
    (moves : List Move) : execution.world.agenda.jobs.Perm
      (execution.taken moves ++ (execution.run moves).world.agenda.jobs) := by
  induction moves generalizing execution with
  | nil => exact .refl _
  | cons move moves ih =>
      have step := step_apply sound.orderly move
      have first : execution.world.agenda.jobs.Perm ((execution.taken? move).toList ++
          (execution.apply move).world.agenda.jobs) := by
        by_cases monitor : ∃ number, move = .runMonitor number
        · rcases monitor with ⟨number, rfl⟩
          exact execution.jobs_runMonitor number
        · have other : ∀ number, move ≠ .runMonitor number :=
            fun number same => monitor ⟨number, same⟩
          have silent : execution.taken? move = none := by
            cases move with
            | runMonitor number => exact absurd rfl (other number)
            | _ => rfl
          rw [silent, since.agenda_of_late orderly late step other]
          exact .refl _
      have rest := ih (since.step sound faithful step) (sound.step step) (faithful.step step)
        (since.late_step late step)
      refine first.trans ?_
      rw [taken, List.append_assoc]
      exact rest.append_left _

end DetachedSince

/-- When no look is scheduled and none is under way, no session is live. -/
theorem Attended.phase_eq (attended : execution.Attended) (present : execution.hasNode = true)
    (empty : execution.world.agenda.jobs = [])
    (calm : ∀ task, task ∈ execution.running → task.point.tick? = none) :
    execution.world.node.session.phase = .noSession := by
  have inactive : execution.world.node.session.active = false := by
    by_contra active
    have current : execution.world.node.session.isCurrent
        execution.world.node.session.generation = true := by
      simpa [Reboot.Session.isCurrent] using active
    have some_look := attended present _ current
    rw [count_looks_of_calm calm, empty] at some_look
    simp at some_look
  simp [Reboot.Session.phase, inactive]

/-! ## A node that is gone -/

theorem hasNode_eq_false : execution.hasNode = false ↔
    execution.world.node.held = false ∧ execution.running = [] := by
  simp [hasNode]

/-- A look that is due on a node that is gone is taken out of the agenda and noted. -/
theorem runMonitor_of_gone (gone : execution.hasNode = false) (number : Nat) :
    execution.apply (.runMonitor number) = execution ∨ ∃ session delay agenda,
      execution.world.scheduled? = some (session, delay, agenda) ∧
      execution.world.agenda.jobs.Perm (session :: agenda.jobs) ∧
      execution.apply (.runMonitor number) = execution.withWorld fun world =>
        (world.withAgenda delay agenda).note (.monitorWithoutNode session) := by
  simp only [apply, runMonitor]
  rcases scheduled : execution.world.scheduled? with _ | ⟨session, delay, agenda⟩
  · exact .inl rfl
  · have absent : hasNode { execution with world := execution.world.withAgenda delay agenda } =
        false := by
      rcases hasNode_eq_false.mp gone with ⟨dropped, alone⟩
      simp [hasNode, dropped, alone]
    by_cases fresh : execution.nextNumber ≤ number
    · right
      refine ⟨session, delay, agenda, rfl, World.perm_of_scheduled? scheduled, ?_⟩
      simp only [fresh, if_true, absent, Bool.false_eq_true, if_false]
      rfl
    · left
      simp only [fresh, if_false]

end Execution

theorem Point.tick?_of_outside {point : Point} (outside : point.isAdmitted = false)
    (other : ∀ session inner, point ≠ .looking session inner) : point.tick? = none := by
  cases point with
  | rebooting afterBuild inner =>
      cases inner with
      | entering => rfl
      | _ => cases outside
  | looking session inner => exact absurd rfl (other session inner)
  | _ => rfl

namespace Outset

theorem coupled_run (outset : Outset) (moves : List Move) :
    (outset.execution.run moves).world.node.attached =
      !(outset.execution.run moves).world.node.retired := by
  refine outset.sound_execution.run_induction (fun _ => True)
    (fun execution => execution.world.node.attached = !execution.world.node.retired) ?_ rfl moves
    fun _ _ => trivial
  intro before after move sound _ step coupled
  exact step.coupled sound coupled

theorem detachedSince_run (outset : Outset) (earlier later : List Move)
    (retired : (outset.execution.run earlier).world.node.retired = true) :
    (outset.execution.run earlier).DetachedSince (outset.execution.run (earlier ++ later)) := by
  rw [Execution.run_append]
  have detached : (outset.execution.run earlier).world.node.attached = false := by
    rw [outset.coupled_run, retired]
    rfl
  have both := (outset.sound_run earlier).run_induction (fun _ => True) (fun execution =>
    execution.Faithful ∧ (outset.execution.run earlier).DetachedSince execution) ?_
    ⟨outset.faithful_run earlier, .refl retired detached⟩ later fun _ _ => trivial
  · exact both.2
  · rintro before after move sound _ step ⟨faithful, since⟩
    exact ⟨faithful.step step, since.step sound faithful step⟩

theorem gone_run (outset : Outset) (earlier later : List Move)
    (gone : (outset.execution.run earlier).hasNode = false) :
    (outset.execution.run (earlier ++ later)).hasNode = false := by
  rw [Execution.run_append]
  refine (outset.sound_run earlier).run_induction (fun _ => True)
    (fun execution => execution.hasNode = false) ?_ gone later fun _ _ => trivial
  intro before after move sound _ step gone
  by_contra present
  have earlier := step.hasNode_of_hasNode (by simpa using present)
  simp [earlier] at gone

/-- **Retirement is final and quiet.** Once the node is retired, whatever moves follow: it stays
retired and its endpoint stays detached, and no connection was started since. Every move leaves the
endpoint alone and starts no connection, unless it is one of the link itself, or the step of a
disconnection that was under way, which asks the agent to exit and tears the channel down and does
nothing else to the endpoint. Tasks that were started since leave the endpoint alone altogether. No
look schedules another one. And once the tasks of that time have ended, whatever follows takes the
scheduled looks out of the agenda and adds none; when all of them were run no look is scheduled, and
while the node exists and no look is under way no session is live.

If instead nobody holds the node and no task works on it, it is gone for good. A look that is run
then is taken out of the agenda and noted, and nothing else happens. -/
theorem retirement_is_final (outset : Outset) (earlier later : List Move) :
    let start := outset.execution.run earlier
    let now := outset.execution.run (earlier ++ later)
    (start.world.node.retired = true →
      (now.world.node.retired = true ∧ now.world.node.attached = false ∧
        GoesOn start.world.transfers now.world.transfers) ∧
      (∀ move, now.SparesEndpoint move ∨ move.isOfLink = true ∨ start.Departs now move) ∧
      (∀ number, start.nextNumber ≤ number →
        now.SparesEndpoint (.resume number) ∧ now.SparesEndpoint (.notice number)) ∧
      (∀ task session inner, task ∈ now.running → task.point = .looking session inner →
        (now.apply (.resume task.number)).world.agenda = now.world.agenda) ∧
      ((∀ task, task ∈ now.running → start.nextNumber ≤ task.number) → ∀ last,
        now.world.agenda.jobs.Perm (now.taken last ++ (now.run last).world.agenda.jobs) ∧
        (now.world.agenda.jobs.length ≤ (now.taken last).length →
          (now.run last).world.agenda.jobs = [] ∧
          ((now.run last).hasNode = true →
            (∀ task session inner, task ∈ (now.run last).running →
              task.point ≠ .looking session inner) →
            (now.run last).world.node.session.phase = .noSession)))) ∧
    (start.world.node.held = false → start.running = [] →
      now.world.node.held = false ∧ now.running = [] ∧
      ∀ number, now.apply (.runMonitor number) = now ∨ ∃ session delay agenda,
        now.world.scheduled? = some (session, delay, agenda) ∧
        now.world.agenda.jobs.Perm (session :: agenda.jobs) ∧
        now.apply (.runMonitor number) = now.withWorld fun world =>
          (world.withAgenda delay agenda).note (.monitorWithoutNode session)) := by
  intro start now
  have startOrderly : start.Orderly := (outset.sound_run earlier).orderly
  have sound : now.Sound := outset.sound_run (earlier ++ later)
  constructor
  · intro retired
    have since : start.DetachedSince now := outset.detachedSince_run earlier later retired
    refine ⟨⟨since.since.retired, since.detached, since.goesOn⟩,
      since.spares_or_departs sound.orderly,
      fun number late => since.spares_of_late startOrderly sound.orderly late, ?_, ?_⟩
    · intro task session inner running looks
      exact since.agenda_of_looking sound.orderly running looks
    · intro late last
      have faithful : now.Faithful := outset.faithful_run (earlier ++ later)
      have perm := since.jobs_run startOrderly sound faithful late last
      have stillLate := since.late_run sound faithful late last
      refine ⟨perm, ?_⟩
      intro all
      have empty : (now.run last).world.agenda.jobs = [] := by
        have length := perm.length_eq
        rw [List.length_append] at length
        apply List.eq_nil_of_length_eq_zero
        omega
      refine ⟨empty, ?_⟩
      intro present none_looking
      have reached : now.run last = outset.execution.run (earlier ++ (later ++ last)) := by
        rw [← List.append_assoc, Execution.run_append]
      have attended : (now.run last).Attended :=
        reached ▸ (outset.attended_run (earlier ++ (later ++ last))).2
      have sinceLast : start.DetachedSince (now.run last) :=
        reached ▸ outset.detachedSince_run earlier (later ++ last) retired
      apply attended.phase_eq present empty
      intro task running
      apply Point.tick?_of_outside
      · exact sinceLast.outside_of_late startOrderly running (stillLate task running)
      · exact fun session inner => none_looking task session inner running
  · intro dropped alone
    have gone : now.hasNode = false :=
      outset.gone_run earlier later (Execution.hasNode_eq_false.mpr ⟨dropped, alone⟩)
    rcases Execution.hasNode_eq_false.mp gone with ⟨still, nobody⟩
    exact ⟨still, nobody, Execution.runMonitor_of_gone gone⟩

/-- A reboot of a node without an instance, up to the look that it schedules. -/
def rebooted : List Move :=
  [.start 0 .reboot, .resume 0, .resume 0, .resume 0, .resume 0]

/-- If the node is retired then, the look gives the session up; if it is dropped, the look finds
nothing and leaves the endpoint alone. -/
theorem retirement_is_final_rebooted :
    let retired := plain.execution.run (rebooted ++ [.retire] ++ [])
    let dropped := plain.execution.run (rebooted ++ [.release] ++ [])
    (retired.run [.runMonitor 1, .resume 1]).world.agenda.jobs = [] ∧
      (retired.run [.runMonitor 1, .resume 1]).world.node.session.phase = .noSession ∧
      (dropped.apply (.runMonitor 1)).world.endpoint = dropped.world.endpoint := by
  intro retired dropped
  have final := (plain.retirement_is_final (rebooted ++ [.retire]) []).1 rfl
  have nobody : retired.running = [] := rfl
  have calm : (retired.run [.runMonitor 1, .resume 1]).running = [] := rfl
  have drained := (final.2.2.2.2 ?_ [.runMonitor 1, .resume 1]).2 (by decide)
  · refine ⟨drained.1, drained.2 rfl ?_, ?_⟩
    · intro task session inner running
      rw [calm] at running
      cases running
    · have gone := (plain.retirement_is_final (rebooted ++ [.release]) []).2 rfl rfl
      rcases gone.2.2 1 with same | ⟨session, delay, agenda, _, _, same⟩
      · rw [same]
      · rw [same]
        exact (dropped.world.frame_withAgenda delay agenda).2.1
  · intro task running
    rw [nobody] at running
    cases running

end Outset

end BuildAgent
