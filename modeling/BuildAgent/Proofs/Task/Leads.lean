import BuildAgent.Node.Task

/-!
# Where a step of a task leads

A task that does not end with a step goes on with the same work (the first constructors of
`Point.Leads`), or it begins other work at an entrance: a fetch, a reboot, a stop, a termination, a
look at the definition or a rest between two looks of the watchdog. `Point.leads_of_resume` is the
only place that goes through all procedures; what holds of every point that a task can reach is
proved over `Point.Leads`.
-/

namespace BuildAgent

namespace Stage

variable {π π' ρ ρ' : Type}

theorem andThen_eq_pause {stage : Stage π ρ} {wrap : π → π'} {next : ρ → World → Stage π' ρ'}
    {point : π'} {world : World} (paused : stage.andThen wrap next = .pause point world) :
    (∃ inner, stage = .pause inner world ∧ point = wrap inner) ∨
      ∃ result middle, stage = .done result middle ∧ next result middle = .pause point world := by
  cases stage with
  | pause inner middle =>
      simp only [andThen_pause, pause.injEq] at paused
      rcases paused with ⟨rfl, rfl⟩
      exact .inl ⟨inner, rfl, rfl⟩
  | done result middle => exact .inr ⟨result, middle, rfl, paused⟩

/-- Where a part of a procedure is followed by an answer, only the part can pause. -/
theorem pause_of_andThen_done {stage : Stage π ρ} {wrap : π → π'} {answer : ρ → World → ρ'}
    {leaves : ρ → World → World} {point : π'} {world : World}
    (paused : (stage.andThen wrap fun result middle =>
      .done (answer result middle) (leaves result middle)) = .pause point world) :
    ∃ inner, stage = .pause inner world ∧ point = wrap inner := by
  rcases andThen_eq_pause paused with begun | ⟨result, middle, _, ended⟩
  · exact begun
  · cases ended

/-- The point at which a task stands after a step, if it has not ended. -/
def point? : Stage Point Answer → Option Point
  | pause point _ => some point
  | done _ _ => none

end Stage

namespace ReconfigurePoint

variable {world after : World} {next : ReconfigurePoint}

theorem eq_rebinding_of_afterClear {result : Except Refusal TagOutcome}
    (paused : afterClear result world = .pause next after) : next = .rebinding := by
  simp only [afterClear] at paused
  split at paused
  · cases paused
    rfl
  · split at paused <;> cases paused
    rfl

theorem afterPush_ne_pause {result : Except Refusal TagOutcome} :
    afterPush result world ≠ .pause next after := by
  intro paused
  simp only [afterPush] at paused
  split at paused
  · cases paused
  · split at paused <;> cases paused

end ReconfigurePoint

namespace Point

/-- Whether other work can begin at a point. -/
def isEntrance : Point → Bool
  | consulting _ => true
  | fetching _ (.waiting _) => true
  | rebooting true .entering => true
  | stopping _ .entering => true
  | terminating _ .entering => true
  | watching _ => true
  | _ => false

variable {world after : World} {next : Point}

theorem isEntrance_of_afterAction {caller : Caller} {action : IdleAction}
    (paused : afterAction caller action world = .pause next after) : next.isEntrance = true := by
  cases caller with
  | watchdog watch =>
      simp only [afterAction] at paused
      split at paused
      · cases paused
      · cases paused
        rfl
  | _ => cases paused

theorem isEntrance_of_afterStop {caller : Caller} {accepted : Bool}
    (paused : afterStop caller accepted world = .pause next after) : next.isEntrance = true := by
  cases caller with
  | instanceCommand => cases paused
  | nodeCommand => cases paused
  | idleTimeout => cases paused
  | watchdog watch =>
      have acted : afterAction (.watchdog watch) (.stopped accepted) world = .pause next after :=
        paused
      exact isEntrance_of_afterAction acted

theorem isEntrance_of_afterTermination {caller : Caller} {accepted : Bool}
    (paused : afterTermination caller accepted world = .pause next after) :
    next.isEntrance = true := by
  cases caller with
  | instanceCommand => cases paused
  | nodeCommand => cases paused
  | idleTimeout => cases paused
  | watchdog watch =>
      have acted : afterAction (.watchdog watch) (.terminated accepted)
          (if accepted then world.retire else world) = .pause next after := paused
      exact isEntrance_of_afterAction acted

theorem afterReboot_ne_pause {afterBuild : Bool} {result : Except Refusal Nat} :
    afterReboot afterBuild result world ≠ .pause next after := by
  simp only [afterReboot]
  intro paused
  split at paused
  · split at paused <;> cases paused
  · cases paused

theorem isEntrance_of_consult {consultation : Consultation}
    (paused : consult consultation world = .pause next after) : next.isEntrance = true := by
  cases consultation <;> simp only [consult] at paused
  case address =>
    cases paused
    rfl
  all_goals repeat' split at paused
  all_goals first
    | cases paused
      done
    | cases paused
      rfl

/-- Where a task stands after a step, with the step of its own that led there. -/
inductive Leads (world after : World) : Point → Point → Prop where
  | fetching (query : Query) {inner later : FetchPoint}
      (begun : inner.resume world = .pause later after) :
      Leads world after (.fetching query inner) (.fetching query later)
  | lookingUp {inner later : LookupPoint} (begun : inner.resume world = .pause later after) :
      Leads world after (.lookingUp inner) (.lookingUp later)
  | changingTags (change : TagChange) (tags : List Tag) (later : SyncPoint) :
      Leads world after (.changingTags change) (.synchronizing change tags true later)
  | synchronizing (change : TagChange) (tags : List Tag) (locked : Bool) (inner later : SyncPoint) :
      Leads world after (.synchronizing change tags locked inner)
        (.synchronizing change tags locked later)
  | reconfiguring (definition : Definition) (inner later : ReconfigurePoint) :
      Leads world after (.reconfiguring definition inner) (.reconfiguring definition later)
  | rebooting (afterBuild : Bool) {inner later : RebootPoint}
      (begun : inner.resume world = .pause later after) :
      Leads world after (.rebooting afterBuild inner) (.rebooting afterBuild later)
  | looking (session : Nat) {inner later : LookPoint}
      (begun : inner.resume session world = .pause later after) :
      Leads world after (.looking session inner) (.looking session later)
  | stopping (caller : Caller) {inner later : StopPoint}
      (begun : inner.resume world = .pause later after) :
      Leads world after (.stopping caller inner) (.stopping caller later)
  | terminating (caller : Caller) {inner later : TerminatePoint}
      (begun : inner.resume world = .pause later after) :
      Leads world after (.terminating caller inner) (.terminating caller later)
  | disconnecting {inner later : DisconnectPoint}
      (begun : inner.resume world = .pause later after) :
      Leads world after (.disconnecting inner) (.disconnecting later)
  | tearingDown (cause : Option OfflineCause) {later : DisconnectPoint}
      (begun : DisconnectPoint.enterTeardown cause world = .pause later after) :
      Leads world after (.tearingDown cause) (.disconnecting later)
  | elsewhere {point next : Point} (entrance : next.isEntrance = true) :
      Leads world after point next

theorem leads_of_resume {point : Point} (paused : point.resume world = .pause next after) :
    Leads world after point next := by
  cases point with
  | consulting consultation => exact .elsewhere (isEntrance_of_consult paused)
  | fetching query inner =>
      rcases Stage.pause_of_andThen_done paused with ⟨later, begun, rfl⟩
      exact .fetching query begun
  | lookingUp inner =>
      rcases Stage.pause_of_andThen_done paused with ⟨later, begun, rfl⟩
      exact .lookingUp begun
  | changingTags change =>
      rcases Stage.pause_of_andThen_done paused with ⟨later, _, rfl⟩
      exact .changingTags change _ later
  | synchronizing change tags locked inner =>
      rcases Stage.pause_of_andThen_done paused with ⟨later, _, rfl⟩
      exact .synchronizing change tags locked inner later
  | reconfiguring definition inner =>
      rcases Stage.pause_of_andThen_done paused with ⟨later, _, rfl⟩
      exact .reconfiguring definition inner later
  | completingBuild =>
      cases paused
      exact .elsewhere rfl
  | rebooting afterBuild inner =>
      rcases Stage.andThen_eq_pause paused with ⟨later, begun, rfl⟩ | ⟨_, middle, _, ended⟩
      · exact .rebooting afterBuild begun
      · exact absurd ended afterReboot_ne_pause
  | looking session inner =>
      rcases Stage.pause_of_andThen_done paused with ⟨later, begun, rfl⟩
      exact .looking session begun
  | stopping caller inner =>
      rcases Stage.andThen_eq_pause paused with ⟨later, begun, rfl⟩ | ⟨_, middle, _, ended⟩
      · exact .stopping caller begun
      · exact .elsewhere (isEntrance_of_afterStop ended)
  | terminating caller inner =>
      rcases Stage.andThen_eq_pause paused with ⟨later, begun, rfl⟩ | ⟨_, middle, _, ended⟩
      · exact .terminating caller begun
      · exact .elsewhere (isEntrance_of_afterTermination ended)
  | disconnecting inner =>
      rcases Stage.pause_of_andThen_done paused with ⟨later, begun, rfl⟩
      exact .disconnecting begun
  | tearingDown cause =>
      rcases Stage.pause_of_andThen_done paused with ⟨later, begun, rfl⟩
      exact .tearingDown cause begun
  | startingWatch interval =>
      cases paused
      exact .elsewhere rfl
  | watching watch =>
      simp only [resume, watchLook] at paused
      split at paused
      · cases paused
      · cases paused
        exact .elsewhere rfl
  | _ => cases paused

/-- To take notice of the shutdown channel leaves a task where it is, or at an entrance. -/
theorem eq_or_isEntrance_of_notice {point : Point}
    (paused : point.notice world = .pause next after) : next = point ∨ next.isEntrance = true := by
  cases point with
  | watching watch =>
      simp only [notice] at paused
      split at paused
      · cases paused
      · cases paused
        exact .inr rfl
  | _ =>
      cases paused
      exact .inl rfl

end Point

end BuildAgent
