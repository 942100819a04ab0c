import BuildAgent.Proofs.Task.Leads

/-!
# How tasks come by their locks

A task that holds a lock after a step held it before, or the lock was what it waited for
(`Point.holds_of_resume`). No task begins with a lock.
-/

namespace BuildAgent

@[simp]
theorem Request.holds_entry (request : Request) (lock : Lock) :
    request.entry.holds lock = false := by
  cases request <;> cases lock <;> rfl

theorem FetchPoint.holdsCache_or_obstacle (point : FetchPoint) :
    point.holdsCache = true ∨ point.obstacle = some (.lock .cache) := by
  cases point with
  | waiting force => exact .inr rfl
  | describing force instanceId => exact .inl rfl

theorem ReconfigurePoint.holdsDefinition_or_obstacle (point : ReconfigurePoint) :
    point.holdsDefinition = true ∨ point.obstacle = some (.lock .definition) := by
  cases point with
  | waiting => exact .inr rfl
  | _ => exact .inl rfl

/-- A reboot that goes on past its entrance waits for the session lock or holds it. -/
theorem RebootPoint.holdsSession_or_obstacle {point next : RebootPoint} {world after : World}
    (paused : point.resume world = .pause next after) (holds : next.holdsSession = true) :
    point.holdsSession = true ∨ point.obstacle = some (.lock .session) := by
  cases point with
  | entering =>
      simp only [resume] at paused
      split at paused
      · cases paused
      · simp only [Stage.pause.injEq] at paused
        rcases paused with ⟨rfl, _⟩
        cases holds
  | waiting => exact .inr rfl
  | _ => exact .inl rfl

/-- A look goes on only where the session is live, the endpoint is there, and no attempt is held. -/
theorem LookPoint.begin_eq_pause {session : Nat} {next : LookPoint} {world after : World}
    (paused : begin session world = .pause next after) :
    next = .refreshing (.waiting true) ∧ after = world ∧
      world.node.session.isCurrent session = true ∧ world.node.retired = false ∧
      world.node.attached = true ∧ world.node.session.attempt = none := by
  simp only [begin] at paused
  split at paused
  · cases paused
  rename_i current
  split at paused
  · cases paused
  rename_i managed
  split at paused
  · cases paused
  rename_i attached
  split at paused
  · rename_i idle
    simp only [Stage.pause.injEq] at paused
    rcases paused with ⟨rfl, rfl⟩
    exact ⟨rfl, rfl, by simpa using current, by simpa using managed, by simpa using attached, idle⟩
  · split at paused <;> cases paused

theorem LookPoint.holds_of_resume {session : Nat} {point next : LookPoint} {world after : World}
    {lock : Lock} (paused : point.resume session world = .pause next after)
    (holds : next.holds lock = true) :
    point.holds lock = true ∨ point.obstacle = some (.lock lock) := by
  cases point with
  | waiting =>
      rcases begin_eq_pause paused with ⟨rfl, _⟩
      cases lock with
      | session => exact .inr rfl
      | definition => cases holds
      | cache => cases holds
  | refreshing inner =>
      rcases Stage.pause_of_andThen_done paused with ⟨later, _, rfl⟩
      cases lock with
      | session => exact .inl rfl
      | definition => cases holds
      | cache => exact inner.holdsCache_or_obstacle

namespace Point

theorem not_holds_of_isEntrance {point : Point} (entrance : point.isEntrance = true) (lock : Lock) :
    point.holds lock = false := by
  cases point with
  | fetching query inner =>
      cases inner with
      | waiting force => cases lock <;> rfl
      | describing force instanceId => cases entrance
  | rebooting afterBuild inner =>
      cases inner with
      | entering => cases lock <;> rfl
      | _ => cases afterBuild <;> cases entrance
  | synchronizing change tags locked inner => cases entrance
  | reconfiguring definition inner => cases entrance
  | looking session inner => cases entrance
  | _ => rfl

theorem holds_of_resume {point next : Point} {world after : World} {lock : Lock}
    (paused : point.resume world = .pause next after) (holds : next.holds lock = true) :
    point.holds lock = true ∨ point.obstacle = some (.lock lock) := by
  cases leads_of_resume paused with
  | fetching query begun =>
      rename_i inner later
      cases lock with
      | cache => exact inner.holdsCache_or_obstacle
      | session => cases holds
      | definition => cases holds
  | changingTags change tags later =>
      cases lock with
      | definition => exact .inr rfl
      | session => cases holds
      | cache => cases holds
  | synchronizing change tags locked inner later =>
      cases lock with
      | definition => exact .inl holds
      | session => cases holds
      | cache => cases holds
  | reconfiguring definition inner later =>
      cases lock with
      | definition => exact inner.holdsDefinition_or_obstacle
      | session => cases holds
      | cache => cases holds
  | rebooting afterBuild begun =>
      cases lock with
      | session => exact RebootPoint.holdsSession_or_obstacle begun holds
      | definition => cases holds
      | cache => cases holds
  | looking session begun => exact LookPoint.holds_of_resume begun holds
  | elsewhere entrance => simp [not_holds_of_isEntrance entrance] at holds
  | _ => cases holds

theorem holds_of_notice {point next : Point} {world after : World} {lock : Lock}
    (paused : point.notice world = .pause next after) (holds : next.holds lock = true) :
    point.holds lock = true := by
  rcases eq_or_isEntrance_of_notice paused with rfl | entrance
  · exact holds
  · simp [not_holds_of_isEntrance entrance] at holds

end Point

end BuildAgent
