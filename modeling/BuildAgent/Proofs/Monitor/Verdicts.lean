import BuildAgent.Proofs.Execution.Step
import BuildAgent.Proofs.Reboot.Policy

/-!
# For what reason a look gives a session up

A look says that the instance is gone, or that the node is no longer rebooting, only after it
fetched the instance, and then the fetched snapshot and the offline cause decide. No other way out
of a look gives one of these reasons.
-/

namespace BuildAgent

namespace LookPoint

variable {session : Nat} {observation : Reboot.Observation} {reason : Reboot.AbandonReason}
  {world after : World}

/-- A look gives a session up for the reason of the policy, or because there is no endpoint. -/
theorem decide_of_act (given : (act session observation world).1 = .abandoned reason) :
    world.node.timings.reboot.decide observation world.node.session.launchFailures =
      .abandon reason ∨ reason = .endpointGone := by
  simp only [act] at given
  split at given
  · simp only [startAttempt] at given
    split at given
    · cases given
      exact .inr rfl
    · cases given
  · cases given
  · cases given
  · cases given
  · rename_i decided
    cases given
    exact .inl decided

theorem act_eq_instanceGone :
    (act session observation world).1 = .abandoned .instanceGone ↔
      ∃ stillRebooting, observation = .idle false stillRebooting := by
  constructor
  · intro given
    rcases decide_of_act given with decided | gone
    · exact (Reboot.Policy.idle_of_abandon decided).1 rfl
    · cases gone
  · rintro ⟨stillRebooting, rfl⟩
    rfl

theorem begin_abandoned (ended : begin session world = .done (.abandoned reason) after) :
    reason ≠ .instanceGone ∧ reason ≠ .noLongerRebooting := by
  unfold begin at ended
  split at ended
  · cases ended
  split at ended
  · cases ended
    exact ⟨nofun, nofun⟩
  split at ended
  · cases ended
    exact ⟨nofun, nofun⟩
  split at ended
  · cases ended
  split at ended
  · simp only [Stage.done.injEq] at ended
    rcases decide_of_act ended.1 with decided | rfl
    · cases decided
    · exact ⟨nofun, nofun⟩
  · simp only [Stage.done.injEq] at ended
    rcases decide_of_act ended.1 with decided | rfl
    · constructor
      · intro gone
        rcases (Reboot.Policy.idle_of_abandon decided).1 gone with ⟨_, idle⟩
        cases idle
      · intro changed
        cases (Reboot.Policy.idle_of_abandon decided).2 changed
    · exact ⟨nofun, nofun⟩

theorem refreshing_of_abandoned {point : LookPoint}
    (ended : point.resume session world = .done (.abandoned reason) after)
    (fetched : reason = .instanceGone ∨ reason = .noLongerRebooting) :
    ∃ fetch found middle, point = .refreshing fetch ∧ fetch.resume world = .done found middle ∧
      afterFetch session found middle = .done (.abandoned reason) after := by
  cases point with
  | waiting =>
      have neither := begin_abandoned ended
      rcases fetched with gone | stopped
      · exact absurd gone neither.1
      · exact absurd stopped neither.2
  | refreshing fetch =>
      rcases stage_eq : fetch.resume world with ⟨next, middle⟩ | ⟨found, middle⟩
      · simp [resume, stage_eq] at ended
      · refine ⟨fetch, found, middle, rfl, stage_eq, ?_⟩
        simpa only [resume, stage_eq, Stage.andThen_done] using ended

theorem stillRebooting_of_abandoned {found : Option Snapshot}
    (ended : afterFetch session found world = .done (.abandoned .noLongerRebooting) after) :
    (world.offlineCause.any fun cause => cause.isRebootFor session) = false := by
  simp only [afterFetch, Stage.done.injEq] at ended
  rcases decide_of_act ended.1 with decided | gone
  · have observed := (Reboot.Policy.idle_of_abandon decided).2 rfl
    simp only [Reboot.Observation.idle.injEq] at observed
    exact observed.2
  · cases gone

/-- The instance counts as gone exactly if the fetched snapshot is not alive. -/
theorem instanceGone_iff {found : Option Snapshot} {outcome : LookOutcome}
    (ended : afterFetch session found world = .done outcome after) :
    outcome = .abandoned .instanceGone ↔ found.any Snapshot.isAlive = false := by
  simp only [afterFetch, Stage.done.injEq] at ended
  rw [← ended.1, act_eq_instanceGone]
  simp only [Reboot.Observation.idle.injEq]
  exact ⟨fun ⟨_, dead, _⟩ => dead, fun dead => ⟨_, dead, rfl⟩⟩

end LookPoint

namespace Point

variable {point : Point} {world after : World} {outcome : LookOutcome}

theorem afterAction_ne_looked {caller : Caller} {action : IdleAction} :
    afterAction caller action world ≠ .done (.looked outcome) after := by
  intro ended
  simp only [afterAction] at ended
  split at ended
  · split at ended <;> cases ended
  · cases ended

/-- Only a look answers as a look. -/
theorem looking_of_looked (ended : point.resume world = .done (.looked outcome) after) :
    ∃ session inner, point = .looking session inner ∧
      inner.resume session world = .done outcome after := by
  have done_of_andThen : ∀ {π ρ : Type} {stage : Stage π ρ} {wrap : π → Point}
      {next : ρ → World → Stage Point Answer},
      stage.andThen wrap next = .done (.looked outcome) after →
      ∃ result middle, stage = .done result middle ∧
        next result middle = .done (.looked outcome) after := by
    intro π ρ stage wrap next whole
    cases stage with
    | pause inner middle => cases whole
    | done result middle => exact ⟨result, middle, rfl, whole⟩
  cases point with
  | looking session inner =>
      rcases done_of_andThen ended with ⟨found, middle, stage_eq, same⟩
      simp only [finish, Stage.done.injEq, Answer.looked.injEq] at same
      rcases same with ⟨rfl, rfl⟩
      exact ⟨session, inner, rfl, stage_eq⟩
  | consulting consultation =>
      cases consultation <;> simp only [resume, consult] at ended
      all_goals repeat' split at ended
      all_goals cases ended
  | rebooting afterBuild inner =>
      rcases done_of_andThen ended with ⟨result, middle, _, same⟩
      simp only [afterReboot] at same
      split at same
      · split at same <;> cases same
      · cases same
  | stopping caller inner =>
      rcases done_of_andThen ended with ⟨result, middle, _, same⟩
      cases caller with
      | watchdog watch =>
          have acted : afterAction (.watchdog watch) (.stopped result) middle =
              .done (.looked outcome) after := same
          exact absurd acted afterAction_ne_looked
      | _ => cases same
  | terminating caller inner =>
      rcases done_of_andThen ended with ⟨result, middle, _, same⟩
      cases caller with
      | watchdog watch =>
          have acted : afterAction (.watchdog watch) (.terminated result)
              (if result then middle.retire else middle) = .done (.looked outcome) after := same
          exact absurd acted afterAction_ne_looked
      | _ => cases same
  | watching watch =>
      simp only [resume, watchLook] at ended
      split at ended <;> cases ended
  | fetching query inner =>
      rcases done_of_andThen ended with ⟨result, middle, _, same⟩
      cases query <;> cases same
  | readingInstanceId => cases ended
  | readingCapacity => cases ended
  | readingPhase => cases ended
  | assigning instanceId announce => cases ended
  | completingBuild => cases ended
  | startingWatch interval => cases ended
  | _ =>
      rcases done_of_andThen ended with ⟨result, middle, _, same⟩
      cases same

end Point

namespace Execution

theorem Takes.looked {execution : Execution} {task : Task} {move : Move} {outcome : LookOutcome}
    {world : World} (takes : execution.Takes task move (.done (.looked outcome) world)) :
    ∃ session inner, task.point = .looking session inner ∧
      inner.resume session execution.world = .done outcome world := by
  generalize stage_eq : Stage.done (Answer.looked outcome) world = stage at takes
  cases takes with
  | resume ready => exact Point.looking_of_looked stage_eq.symm
  | notice news =>
      simp only [Point.notice] at stage_eq
      split at stage_eq
      · split at stage_eq <;> cases stage_eq
      · cases stage_eq

end Execution

end BuildAgent
