import BuildAgent.Proofs.Task.Requests

/-!
# Reboots of a retired node

A reboot asks only once whether the node is retired: at its entrance, before it waits for the
session lock. One that comes after the retirement is refused there and does nothing. One that was
let in before is not asked again, so it opens its session on the retired node when it gets the lock,
however late that is. The reboots that wait at the retirement are the only ones that still open a
session (`Outset.admitted_before_retirement`).
-/

namespace BuildAgent

/-- Whether a reboot has passed its entrance. -/
def RebootPoint.isAdmitted : RebootPoint → Bool
  | entering => false
  | _ => true

namespace Point

def isAdmitted : Point → Bool
  | rebooting _ point => point.isAdmitted
  | _ => false

/-- Whether a task is about to open a session, once the session lock is free. -/
def isAboutToOpen : Point → Bool
  | rebooting _ .waiting => true
  | _ => false

theorem rebooting_of_isAboutToOpen {point : Point} (waits : point.isAboutToOpen = true) :
    ∃ afterBuild, point = .rebooting afterBuild .waiting := by
  cases point with
  | rebooting afterBuild inner =>
      cases inner with
      | waiting => exact ⟨afterBuild, rfl⟩
      | _ => cases waits
  | _ => cases waits

theorem isAboutToOpen_of_isEntrance {point : Point} (entrance : point.isEntrance = true) :
    point.isAboutToOpen = false ∧ point.isAdmitted = false := by
  cases point with
  | rebooting afterBuild inner =>
      cases inner with
      | entering => exact ⟨rfl, rfl⟩
      | _ => cases afterBuild <;> cases entrance
  | _ => exact ⟨rfl, rfl⟩

end Point

/-! ## Nobody is let in after the retirement -/

namespace RebootPoint

variable {world after : World}

theorem resume_entering (retired : world.node.retired = true) :
    entering.resume world = .done (.error (.retired world.node.name)) world := by
  simp [resume, retired]

/-- Past its entrance a reboot never comes to wait for its session again. -/
theorem admitted_of_resume {point next : RebootPoint} (retired : world.node.retired = true)
    (paused : point.resume world = .pause next after) :
    point.isAdmitted = true ∧ next ≠ .waiting := by
  rcases works : point.session? with _ | session
  · cases point with
    | entering =>
        rw [resume_entering retired] at paused
        cases paused
    | waiting =>
        rcases begin_eq world with ⟨inner, opened, begun, own, _⟩
        have same : begin world = .pause next after := paused
        rw [begun] at same
        cases same
        refine ⟨rfl, ?_⟩
        rintro rfl
        cases own
    | _ => cases works
  · refine ⟨?_, ?_⟩
    · cases point with
      | entering => cases works
      | _ => rfl
    · rcases resume_eq works world with ⟨later, end_, goes, own, _⟩ | ⟨middle, delay, ended, _⟩
      · rw [goes] at paused
        cases paused
        rintro rfl
        cases own
      · rw [ended] at paused
        cases paused

end RebootPoint

theorem Point.admitted_of_resume {point next : Point} {world after : World}
    (retired : world.node.retired = true) (paused : point.resume world = .pause next after) :
    (next.isAdmitted = true → point.isAdmitted = true) ∧ next.isAboutToOpen = false := by
  cases leads_of_resume paused with
  | rebooting afterBuild begun =>
      rename_i inner later
      rcases RebootPoint.admitted_of_resume retired begun with ⟨admitted, other⟩
      refine ⟨fun _ => admitted, ?_⟩
      cases later with
      | waiting => exact absurd rfl other
      | _ => rfl
  | elsewhere entrance =>
      have neither := isAboutToOpen_of_isEntrance entrance
      exact ⟨fun admitted => by simp [neither.2] at admitted, neither.1⟩
  | _ => exact ⟨nofun, rfl⟩

/-! ## Only a waiting reboot opens a session -/

theorem Point.Effect.opens {point : Point} {next : Option Point} {before after : World}
    (effect : point.Effect before next after)
    (other : after.node.session.generation ≠ before.node.session.generation) :
    point.isAboutToOpen = true := by
  cases effect with
  | kept through tick works => exact absurd (by rw [through.session_eq]) other
  | engaged looks current managed attached idle => exact absurd rfl other
  | superseded looks stale => exact absurd rfl other
  | opened reboots works resets causes marked =>
      rw [reboots]
      rfl
  | concluded reboots works through scheduled =>
      subst scheduled
      exact absurd (congrArg Reboot.Session.generation through.session_eq) other
  | decided tick current effect =>
      cases effect with
      | closed outcome resets => exact absurd (by rw [resets.session]; rfl) other
      | started attempt idle attempts => exact absurd (by rw [attempts.record]) other
      | rechecked attempt delay busy underWay scheduled =>
          subst scheduled
          exact absurd rfl other
      | retried attempt busy ended retries => exact absurd retries.generation other

theorem World.retired_retire (world : World) : world.retire.node.retired = true := by
  simp only [retire, detach]
  split
  · assumption
  · split <;> rfl

theorem Deed.retired_apply (deed : Deed) {world : World} (retired : world.node.retired = true) :
    (deed.apply world).node.retired = true := by
  cases deed with
  | retire => rcases world.node_retire with kept | kept <;> simp [apply, kept, retired]
  | _ => simp [apply, retired]

theorem World.Through.retired {permits : Deed → Prop} {before after : World}
    (through : before.Through permits after) (retired : before.node.retired = true) :
    after.node.retired = true := by
  induction through with
  | refl => exact retired
  | tail _ step still =>
      rcases step with ⟨deed, _, rfl⟩
      exact deed.retired_apply still

namespace Execution

variable {start before after execution : Execution} {move : Move} {task : Task}

theorem Takes.opens {stage : Stage Point Answer} (takes : before.Takes task move stage)
    (guarded : before.Guarded) (running : task ∈ before.running)
    (other : stage.world.node.session.generation ≠ before.world.node.session.generation) :
    move = .resume task.number ∧ task.point.isAboutToOpen = true := by
  have opens := (takes.effect guarded running).opens other
  cases takes with
  | resume ready => exact ⟨rfl, opens⟩
  | notice news =>
      rcases Point.rebooting_of_isAboutToOpen opens with ⟨afterBuild, waits⟩
      simp [waits, Point.hasNews] at news

/-- A session is opened only by the step of a reboot that waited to open it. -/
theorem Step.opens (sound : before.Sound) (step : before.Step move after)
    (other : after.world.node.session.generation ≠ before.world.node.session.generation) :
    ∃ task, task ∈ before.running ∧ task.point.isAboutToOpen = true ∧
      move = .resume task.number := by
  cases step with
  | idle move => exact absurd rfl other
  | outside move change changes =>
      have same := (Move.frame_outside changes before.world).1
      exact absurd (congrArg Reboot.Session.generation same) other
  | started number request fresh => exact absurd rfl other
  | looked number session delay agenda fresh scheduled => exact absurd (by simp) other
  | lost number session delay agenda scheduled dropped =>
      exact absurd (by simp [withWorld]) other
  | advanced move earlier later task stage split takes =>
      have running := mem_of_eq_append split
      have opens := takes.opens sound.guarded running other
      exact ⟨task, running, opens.2, opens.1⟩

/-- To retire is final. -/
theorem Step.retired (sound : before.Sound) (step : before.Step move after)
    (retired : before.world.node.retired = true) : after.world.node.retired = true := by
  cases step with
  | idle move => exact retired
  | outside move change changes =>
      cases Move.outside_of_outside? changes with
      | bringOn transfer => simpa [withWorld, (World.node_bringOn _ _).1] using retired
      | retire => exact Deed.retire.retired_apply retired
      | happen happening => simpa [withWorld, (happening.frame_apply _).1] using retired
      | aside _ _ aside => exact (aside before.world).retired.trans retired
  | started number request fresh => exact retired
  | looked number session delay agenda fresh scheduled => simpa using retired
  | lost number session delay agenda scheduled dropped => simpa [withWorld] using retired
  | advanced move earlier later task stage split takes =>
      have effect := takes.effect sound.guarded (mem_of_eq_append split)
      rcases effect.standing with same | ⟨middle, through, same⟩
      · exact (congrArg (fun standing => standing.1) same).trans retired
      · simp only [replace, same]
        exact through.retired retired

/-- A reboot that waits to open a session opens it once the session lock is free. -/
theorem session_of_isAboutToOpen (orderly : execution.Orderly) (running : task ∈ execution.running)
    (waits : task.point.isAboutToOpen = true) (free : execution.isFree .session = true) :
    (execution.apply (.resume task.number)).world.node.session =
      execution.world.node.session.start := by
  rcases Point.rebooting_of_isAboutToOpen waits with ⟨afterBuild, point_eq⟩
  have ready : execution.isReady task = true := by
    rw [isReady, point_eq]
    exact free
  rcases RebootPoint.begin_eq execution.world with ⟨inner, opened, begun, _, resets, _⟩
  rw [(resume_of_mem orderly running ready).1, point_eq]
  simp only [Point.resume, RebootPoint.resume, begun, Stage.andThen_pause]
  exact resets.session

/-- A reboot at its entrance is refused by a node that is retired. -/
theorem refused_of_entering (orderly : execution.Orderly) (running : task ∈ execution.running)
    (asked : task.request = .reboot) (entering : task.point = .rebooting false .entering)
    (retired : execution.world.node.retired = true) :
    (execution.apply (.resume task.number)).world = execution.world ∧
      (execution.apply (.resume task.number)).reports =
        ⟨task.number, .reboot, .rebooted (.error (.retired execution.world.node.name))⟩ ::
          execution.reports := by
  have ready : execution.isReady task = true := by
    rw [isReady, entering]
    rfl
  have step := resume_of_mem orderly running ready
  simp only [entering, Point.resume, RebootPoint.resume_entering retired, Stage.andThen_done,
    asked, Stage.reported] at step
  exact step

/-! ## What is left after the retirement -/

/-- Whether a task had passed the entrance of a reboot. -/
def Admitted (execution : Execution) (number : Nat) : Prop :=
  ∃ task, task ∈ execution.running ∧ task.number = number ∧ task.point.isAdmitted = true

/-- What is known of an execution since the retirement of its node: who is past the entrance of a
reboot was so before, and the others were refused. -/
structure RetiredSince (start execution : Execution) : Prop where
  retired : execution.world.node.retired = true
  admitted : ∀ task, task ∈ execution.running → task.point.isAdmitted = true →
    start.Admitted task.number
  waiting : ∀ task, task ∈ execution.running → task.point.isAboutToOpen = true →
    task ∈ start.running
  refused : ∀ report, report ∈ execution.reports → report.request = .reboot →
    report ∈ start.reports ∨ start.Admitted report.number ∨
      ∃ name, report.answer = .rebooted (.error (.retired name))

namespace RetiredSince

theorem refl (retired : start.world.node.retired = true) : start.RetiredSince start :=
  ⟨retired, fun task running admitted => ⟨task, running, rfl, admitted⟩,
    fun _ running _ => running, fun _ reported _ => .inl reported⟩

theorem started (since : start.RetiredSince execution) {number : Nat} (request : Request)
    {world : World} (retired : world.node.retired = true) :
    start.RetiredSince { execution with
      world
      running := execution.running ++ [⟨number, request, request.entry⟩]
      nextNumber := number + 1 } := by
  have outside : request.entry.isAdmitted = false ∧ request.entry.isAboutToOpen = false := by
    cases request <;> exact ⟨rfl, rfl⟩
  refine ⟨retired, ?_, ?_, since.refused⟩
  · intro task running admitted
    rw [List.mem_append, List.mem_singleton] at running
    rcases running with old | rfl
    · exact since.admitted task old admitted
    · simp [outside.1] at admitted
  · intro task running waits
    rw [List.mem_append, List.mem_singleton] at running
    rcases running with old | rfl
    · exact since.waiting task old waits
    · simp [outside.2] at waits

theorem advanced (since : start.RetiredSince before) (sound : before.Sound)
    (faithful : before.Faithful) {earlier later : List Task} {stage : Stage Point Answer}
    (split : before.running = earlier ++ task :: later) (takes : before.Takes task move stage) :
    start.RetiredSince (before.replace earlier task later stage) := by
  have running := mem_of_eq_append split
  have step := Step.advanced move earlier later task stage split takes
  have goes : ∀ next world, stage = .pause next world →
      (next.isAdmitted = true → task.point.isAdmitted = true) ∧
        (next.isAboutToOpen = true → next = task.point) := by
    rintro next world rfl
    generalize stage_eq : Stage.pause next world = stage at takes
    cases takes with
    | resume ready =>
        have admitted := Point.admitted_of_resume since.retired stage_eq.symm
        exact ⟨admitted.1, fun waits => by simp [admitted.2] at waits⟩
    | notice news =>
        rcases Point.eq_or_isEntrance_of_notice stage_eq.symm with rfl | entrance
        · exact ⟨id, fun _ => rfl⟩
        · have neither := Point.isAboutToOpen_of_isEntrance entrance
          exact ⟨fun admitted => by simp [neither.2] at admitted,
            fun waits => by simp [neither.1] at waits⟩
  refine ⟨step.retired sound since.retired, ?_, ?_, ?_⟩
  · intro other others admitted
    rcases mem_replace.mp others with left | still
    · rcases mem_remaining left with ⟨next, world, paused, rfl⟩
      exact since.admitted task running ((goes next world paused).1 admitted)
    · exact since.admitted other (mem_of_split split still) admitted
  · intro other others waits
    rcases mem_replace.mp others with left | still
    · rcases mem_remaining left with ⟨next, world, paused, rfl⟩
      have same := (goes next world paused).2 waits
      subst same
      exact since.waiting task running waits
    · exact since.waiting other (mem_of_split split still) waits
  · intro report reported asked
    cases stage with
    | pause next world => exact since.refused report reported asked
    | done answer world =>
        rcases List.mem_cons.mp reported with rfl | old
        · right
          rcases faithful.rebooting running asked with ⟨inner, reboots⟩
          rcases inside : inner.isAdmitted with _ | _
          · -- Outside, the retirement is all that the reboot can find.
            right
            cases inner with
            | entering =>
                generalize stage_eq : Stage.done answer world = stage at takes
                cases takes with
                | resume ready =>
                    rw [reboots] at stage_eq
                    simp only [Point.resume, RebootPoint.resume_entering since.retired,
                      Stage.andThen_done] at stage_eq
                    cases stage_eq
                    exact ⟨_, rfl⟩
                | notice news => simp [reboots, Point.hasNews] at news
            | _ => cases inside
          · left
            refine since.admitted task running ?_
            rw [reboots]
            exact inside
        · exact since.refused report old asked

theorem step (since : start.RetiredSince before) (sound : before.Sound)
    (faithful : before.Faithful) (step : before.Step move after) : start.RetiredSince after := by
  have retired := step.retired sound since.retired
  cases step with
  | idle move => exact since
  | outside move change changes =>
      exact ⟨retired, since.admitted, since.waiting, since.refused⟩
  | started number request fresh => exact since.started request retired
  | looked number session delay agenda fresh scheduled =>
      exact since.started (.look session) retired
  | lost number session delay agenda scheduled dropped =>
      exact ⟨retired, since.admitted, since.waiting, since.refused⟩
  | advanced move earlier later task stage split takes =>
      exact since.advanced sound faithful split takes

end RetiredSince

end Execution

namespace Outset

variable (outset : Outset) (earlier later : List Move)

theorem retiredSince_run (retired : (outset.execution.run earlier).world.node.retired = true) :
    (outset.execution.run earlier).RetiredSince (outset.execution.run (earlier ++ later)) := by
  rw [Execution.run_append]
  have both := (outset.sound_run earlier).run_induction (fun _ => True) (fun execution =>
    execution.Faithful ∧ (outset.execution.run earlier).RetiredSince execution) ?_
    ⟨outset.faithful_run earlier, .refl retired⟩ later fun _ _ => trivial
  · exact both.2
  · rintro before after move sound _ step ⟨faithful, since⟩
    exact ⟨faithful.step step, since.step sound faithful step⟩

/-- **The reboots that wait at the retirement are the last that open a session.** After a node was
retired, whatever moves follow: a session is opened only by the step of a reboot that waited to open
it when the node was retired; such a reboot does open it, once the session lock is free; and a
reboot that had not passed its entrance by then is refused by its next step, which leaves the world
as it is, so every reboot that ends later was let in before or is refused. -/
theorem admitted_before_retirement
    (retired : (outset.execution.run earlier).world.node.retired = true) :
    (∀ move, (outset.execution.run (earlier ++ later ++ [move])).world.node.session.generation ≠
        (outset.execution.run (earlier ++ later)).world.node.session.generation →
      ∃ task, task ∈ (outset.execution.run earlier).running ∧ task.point.isAboutToOpen = true ∧
        move = .resume task.number) ∧
    (∀ task, task ∈ (outset.execution.run (earlier ++ later)).running →
      task.point.isAboutToOpen = true →
      (outset.execution.run (earlier ++ later)).isFree .session = true →
      (outset.execution.run (earlier ++ later ++ [.resume task.number])).world.node.session =
        (outset.execution.run (earlier ++ later)).world.node.session.start) ∧
    (∀ task, task ∈ (outset.execution.run (earlier ++ later)).running → task.request = .reboot →
      ¬(outset.execution.run earlier).Admitted task.number →
      (outset.execution.run (earlier ++ later ++ [.resume task.number])).world =
        (outset.execution.run (earlier ++ later)).world ∧
      (outset.execution.run (earlier ++ later ++ [.resume task.number])).reports =
        ⟨task.number, .reboot, .rebooted (.error (.retired
          (outset.execution.run (earlier ++ later)).world.node.name))⟩ ::
          (outset.execution.run (earlier ++ later)).reports) ∧
    (∀ report, report ∈ (outset.execution.run (earlier ++ later)).reports →
      report.request = .reboot → report ∈ (outset.execution.run earlier).reports ∨
        (outset.execution.run earlier).Admitted report.number ∨
        ∃ name, report.answer = .rebooted (.error (.retired name))) := by
  have since := outset.retiredSince_run earlier later retired
  have sound := outset.sound_run (earlier ++ later)
  have resumed : ∀ move, outset.execution.run (earlier ++ later ++ [move]) =
      (outset.execution.run (earlier ++ later)).apply move := fun move =>
    Execution.run_append _ _ _
  refine ⟨?_, ?_, ?_, since.refused⟩
  · intro move other
    rw [resumed] at other
    rcases (Execution.step_apply sound.orderly move).opens sound other with
      ⟨task, running, waits, same⟩
    exact ⟨task, since.waiting task running waits, waits, same⟩
  · intro task running waits free
    rw [resumed]
    exact Execution.session_of_isAboutToOpen sound.orderly running waits free
  · intro task running asked stranger
    rcases (outset.faithful_run (earlier ++ later)).rebooting running asked with
      ⟨inner, point_eq⟩
    have entering : inner = .entering := by
      cases inner with
      | entering => rfl
      | _ =>
        refine absurd (since.admitted task running ?_) stranger
        rw [point_eq]
        rfl
    subst entering
    rw [resumed]
    exact Execution.refused_of_entering sound.orderly running asked point_eq since.retired

/-- Two reboots of a node whose agent is slow to let go of the channel, and the retirement while the
second waits for the first. -/
def retiredWhileWaiting : List Move :=
  [.happen (.delayTeardown 5), .start 0 .reboot, .start 1 .reboot, .resume 0, .resume 1, .resume 0,
    .retire]

/-- The second reboot opens its session when the first is done, on a node that is retired. -/
theorem opened_on_retired :
    (plain.execution.run retiredWhileWaiting).world.node.retired = true ∧
      (plain.execution.run (retiredWhileWaiting ++
        [.pass 5, .bringOn 0, .resume 0, .resume 0] ++ [.resume 1])).world.node.session =
          { generation := 2, active := true } := by
  have opened := (plain.admitted_before_retirement retiredWhileWaiting
    [.pass 5, .bringOn 0, .resume 0, .resume 0] rfl).2.1
    ⟨1, .reboot, .rebooting false .waiting⟩ ?_ rfl rfl
  · refine ⟨rfl, ?_⟩
    rw [opened]
    rfl
  · have waits : (plain.execution.run (retiredWhileWaiting ++
        [.pass 5, .bringOn 0, .resume 0, .resume 0])).running =
          [⟨1, .reboot, .rebooting false .waiting⟩] := rfl
    rw [waits]
    exact List.mem_singleton.mpr rfl

end Outset

end BuildAgent
