import BuildAgent.Proofs.Task.Deeds
import BuildAgent.Proofs.Task.Locks

/-!
# The causes that a task may write

A task that disconnects tears the channel down with a cause, and carries the cause along until it
does. A step does not change it: what a task may write after a step it might have written before, or
it is no cause at all (`Point.permits_of_resume`). The exception is a reboot that opens its session,
which is where the cause of a session comes from.
-/

namespace BuildAgent

variable {world after : World} {cause : Option OfflineCause}

namespace DisconnectPoint

variable {point next : DisconnectPoint}

theorem not_permits_tear {given : Option OfflineCause}
    (paused : tear given world = .pause next after) : ¬next.permits (.tearDown cause) := by
  simp only [tear, Stage.pause.injEq] at paused
  rcases paused with ⟨rfl, _⟩
  rintro (entering | requesting)
  · cases entering
  · cases requesting

theorem permits_of_enter {given : Option OfflineCause}
    (paused : enter given world = .pause next after) (permitted : next.permits (.tearDown cause)) :
    cause = given := by
  simp only [enter] at paused
  split at paused
  · split at paused
    · simp only [Stage.pause.injEq] at paused
      rcases paused with ⟨rfl, _⟩
      rcases permitted with entering | requesting
      · cases entering
      · cases requesting
        rfl
    · exact absurd permitted (not_permits_tear paused)
  · cases paused

theorem permits_of_resume (paused : point.resume world = .pause next after)
    (permitted : next.permits (.tearDown cause)) : point.permits (.tearDown cause) := by
  cases point with
  | entering given =>
      rw [permits_of_enter paused permitted]
      exact .inl rfl
  | requesting given => exact absurd permitted (not_permits_tear paused)
  | tearing transfer =>
      simp only [resume] at paused
      split at paused
      · cases paused
      · simp only [Stage.pause.injEq] at paused
        rcases paused with ⟨rfl, _⟩
        exact permitted

theorem not_permits_enterTeardown {given : Option OfflineCause}
    (paused : enterTeardown given world = .pause next after) :
    ¬next.permits (.tearDown cause) := by
  simp only [enterTeardown] at paused
  split at paused
  · exact not_permits_tear paused
  · cases paused

end DisconnectPoint

theorem StopPoint.permits_of_resume {point next : StopPoint}
    (paused : point.resume world = .pause next after) (permitted : next.permits (.tearDown cause)) :
    point.permits (.tearDown cause) ∨ cause = none := by
  cases point with
  | entering =>
      rcases Stage.andThen_eq_pause paused with ⟨inner, begun, rfl⟩ | ⟨_, middle, _, ended⟩
      · exact .inl (DisconnectPoint.permits_of_enter begun permitted)
      · cases ended
        exact .inr permitted
  | disconnecting inner =>
      rcases Stage.andThen_eq_pause paused with ⟨later, begun, rfl⟩ | ⟨_, middle, _, ended⟩
      · exact .inl (inner.permits_of_resume begun permitted)
      · cases ended
        exact .inr permitted
  | binding =>
      simp only [resume] at paused
      split at paused
      · cases paused
        exact .inr permitted
      · cases paused
  | commanding instanceId =>
      simp only [resume] at paused
      split at paused
      · rcases Stage.pause_of_andThen_done paused with ⟨later, begun, rfl⟩
        exact absurd permitted (DisconnectPoint.not_permits_enterTeardown begun)
      · cases paused
        exact .inr permitted
  | tearing inner =>
      rcases Stage.pause_of_andThen_done paused with ⟨later, begun, rfl⟩
      exact .inl (inner.permits_of_resume begun permitted)
  | diagnosing instanceId failure inner =>
      rcases Stage.pause_of_andThen_done paused with ⟨later, _, rfl⟩
      exact .inr permitted

theorem TerminatePoint.permits_of_resume {point next : TerminatePoint}
    (paused : point.resume world = .pause next after) (permitted : next.permits (.tearDown cause)) :
    point.permits (.tearDown cause) ∨ cause = none := by
  cases point with
  | entering =>
      rcases Stage.andThen_eq_pause paused with ⟨inner, begun, rfl⟩ | ⟨_, middle, _, ended⟩
      · exact .inl (DisconnectPoint.permits_of_enter begun permitted)
      · cases ended
        exact .inr permitted
  | disconnecting inner =>
      rcases Stage.andThen_eq_pause paused with ⟨later, begun, rfl⟩ | ⟨_, middle, _, ended⟩
      · exact .inl (inner.permits_of_resume begun permitted)
      · cases ended
        exact .inr permitted
  | binding =>
      simp only [resume] at paused
      split at paused
      · cases paused
        exact .inr permitted
      · cases paused
  | commanding instanceId =>
      simp only [resume] at paused
      split at paused <;> cases paused

theorem RebootPoint.permits_of_resume {point next : RebootPoint} (opened : point ≠ .waiting)
    (paused : point.resume world = .pause next after) (permitted : next.permits (.tearDown cause)) :
    point.permits (.tearDown cause) := by
  cases point with
  | entering =>
      simp only [resume] at paused
      split at paused
      · cases paused
      · cases paused
        cases permitted
  | waiting => exact absurd rfl opened
  | disconnecting session inner =>
      rcases Stage.andThen_eq_pause paused with ⟨later, begun, rfl⟩ | ⟨_, middle, _, ended⟩
      · exact inner.permits_of_resume begun permitted
      · cases ended
        cases permitted
  | binding session =>
      simp only [resume] at paused
      split at paused
      · cases paused
        cases permitted
      · cases paused
  | commanding session instanceId =>
      simp only [resume] at paused
      split at paused
      · cases paused
      · cases paused
        cases permitted
  | diagnosing session instanceId failure inner =>
      rcases Stage.pause_of_andThen_done paused with ⟨later, _, rfl⟩
      cases permitted

namespace Point

variable {point next : Point}

/-- Work that begins at an entrance was given no cause. -/
theorem eq_none_of_isEntrance (entrance : next.isEntrance = true)
    (permitted : next.permits (.tearDown cause)) : cause = none := by
  cases next with
  | stopping caller inner =>
      cases inner with
      | entering =>
          rcases permitted with stops | records
          · exact stops
          · cases records
      | _ => cases entrance
  | terminating caller inner =>
      cases inner with
      | entering =>
          rcases permitted with terminates | records | retires
          · exact terminates
          · cases records
          · cases retires
      | _ => cases entrance
  | rebooting afterBuild inner =>
      cases inner with
      | entering => cases permitted
      | _ => cases afterBuild <;> cases entrance
  | consulting consultation => cases permitted
  | fetching query inner => cases permitted
  | watching watch => cases permitted
  | _ => cases entrance

theorem permits_of_resume (opened : ∀ afterBuild, point ≠ .rebooting afterBuild .waiting)
    (paused : point.resume world = .pause next after) (permitted : next.permits (.tearDown cause)) :
    point.permits (.tearDown cause) ∨ cause = none := by
  cases leads_of_resume paused with
  | rebooting afterBuild begun =>
      refine .inl (RebootPoint.permits_of_resume ?_ begun permitted)
      rintro rfl
      exact opened afterBuild rfl
  | stopping caller begun =>
      rcases permitted with tears | records
      · exact (StopPoint.permits_of_resume begun tears).imp_left .inl
      · cases records
  | terminating caller begun =>
      rcases permitted with tears | records | retires
      · exact (TerminatePoint.permits_of_resume begun tears).imp_left .inl
      · cases records
      · cases retires
  | disconnecting begun => exact .inl (DisconnectPoint.permits_of_resume begun permitted)
  | tearingDown given begun =>
      exact absurd permitted (DisconnectPoint.not_permits_enterTeardown begun)
  | reconfiguring definition inner later =>
      rcases permitted with tags | replaces
      · cases tags
      · cases replaces
  | elsewhere entrance => exact .inr (eq_none_of_isEntrance entrance permitted)
  | _ => cases permitted

theorem permits_of_notice (paused : point.notice world = .pause next after)
    (permitted : next.permits (.tearDown cause)) :
    point.permits (.tearDown cause) ∨ cause = none := by
  rcases eq_or_isEntrance_of_notice paused with rfl | entrance
  · exact .inl permitted
  · exact .inr (eq_none_of_isEntrance entrance permitted)

end Point

end BuildAgent
