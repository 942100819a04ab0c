import BuildAgent.Proofs.Monitor.Retirement
import BuildAgent.Proofs.Monitor.Ticks
import BuildAgent.Proofs.Task.Guise

/-!
# Work on a detached node

Everything that a task does to the endpoint begins with the question whether the endpoint is still
attached, so on a detached node a step leaves the endpoint alone. There is one exception, a
disconnection that had got hold of the endpoint before (`Point.parting?`): its next step asks the
agent to exit and tears the channel down. No step of a detached node leads to such a point again,
none starts a connection, and no look schedules the next one.
-/

namespace BuildAgent

variable {world after : World}

/-! ## Disconnections -/

namespace DisconnectPoint

theorem enter_of_detached (detached : world.node.attached = false) (cause : Option OfflineCause) :
    enter cause world = .done () (world.note .nothingToDisconnect) := by
  simp [enter, detached]

theorem enterTeardown_of_detached (detached : world.node.attached = false)
    (cause : Option OfflineCause) : enterTeardown cause world = .done () world := by
  simp [enterTeardown, detached]

theorem parting?_of_resume {point next : DisconnectPoint} (detached : world.node.attached = false)
    (paused : point.resume world = .pause next after) : next.parting? = none := by
  cases point with
  | entering cause =>
      rw [resume, enter_of_detached detached] at paused
      cases paused
  | requesting cause =>
      cases paused
      rfl
  | tearing transfer =>
      simp only [resume] at paused
      split at paused
      · cases paused
      · cases paused
        rfl

theorem eq_requesting_of_parting? {point : DisconnectPoint} {cause : Option OfflineCause}
    (parts : point.parting? = some cause) : point = .requesting cause := by
  cases point with
  | requesting own =>
      cases parts
      rfl
  | _ => cases parts

end DisconnectPoint

theorem RebootPoint.parting?_of_resume {point next : RebootPoint}
    (detached : world.node.attached = false) (paused : point.resume world = .pause next after) :
    next.parting? = none := by
  cases point with
  | entering =>
      simp only [resume] at paused
      split at paused
      · cases paused
      · cases paused
        rfl
  | waiting =>
      rcases begin_eq_enter world with ⟨prepared, begun, _, attached, _⟩
      have still : prepared.node.attached = false := attached.trans detached
      have opened : begin world = .pause next after := paused
      rw [begun, DisconnectPoint.enter_of_detached still] at opened
      cases opened
      rfl
  | disconnecting session inner =>
      rcases Stage.andThen_eq_pause paused with ⟨later, begun, rfl⟩ | ⟨_, middle, _, ended⟩
      · exact DisconnectPoint.parting?_of_resume detached begun
      · cases ended
        rfl
  | binding session =>
      simp only [resume] at paused
      split at paused
      · cases paused
        rfl
      · cases paused
  | commanding session instanceId =>
      simp only [resume] at paused
      split at paused
      · cases paused
      · cases paused
        rfl
  | diagnosing session instanceId failure inner =>
      rcases Stage.andThen_eq_pause paused with ⟨later, begun, rfl⟩ | ⟨_, middle, _, ended⟩
      · rfl
      · cases ended

theorem StopPoint.parting?_of_resume {point next : StopPoint}
    (detached : world.node.attached = false) (paused : point.resume world = .pause next after) :
    next.parting? = none := by
  cases point with
  | entering =>
      rw [resume, DisconnectPoint.enter_of_detached detached] at paused
      cases paused
      rfl
  | disconnecting inner =>
      rcases Stage.andThen_eq_pause paused with ⟨later, begun, rfl⟩ | ⟨_, middle, _, ended⟩
      · exact DisconnectPoint.parting?_of_resume detached begun
      · cases ended
        rfl
  | binding =>
      simp only [resume] at paused
      split at paused
      · cases paused
        rfl
      · cases paused
  | commanding instanceId =>
      rcases asked : (world.ask fun provider => provider.command .stop instanceId) with
        ⟨failure | _, middle⟩
      · simp only [resume, asked] at paused
        cases paused
        rfl
      · have same := (world.frame_ask fun provider => provider.command .stop instanceId).1
        rw [asked] at same
        have still : (middle.note (.stopSent instanceId)).node.attached = false :=
          (congrArg Node.attached same).trans detached
        simp only [resume, asked, DisconnectPoint.enterTeardown_of_detached still] at paused
        cases paused
  | tearing inner =>
      rcases Stage.pause_of_andThen_done paused with ⟨later, begun, rfl⟩
      exact DisconnectPoint.parting?_of_resume detached begun
  | diagnosing instanceId failure inner =>
      rcases Stage.andThen_eq_pause paused with ⟨later, begun, rfl⟩ | ⟨_, middle, _, ended⟩
      · rfl
      · cases ended

theorem TerminatePoint.parting?_of_resume {point next : TerminatePoint}
    (detached : world.node.attached = false) (paused : point.resume world = .pause next after) :
    next.parting? = none := by
  cases point with
  | entering =>
      rw [resume, DisconnectPoint.enter_of_detached detached] at paused
      cases paused
      rfl
  | disconnecting inner =>
      rcases Stage.andThen_eq_pause paused with ⟨later, begun, rfl⟩ | ⟨_, middle, _, ended⟩
      · exact DisconnectPoint.parting?_of_resume detached begun
      · cases ended
        rfl
  | binding =>
      simp only [resume] at paused
      split at paused
      · cases paused
        rfl
      · cases paused
  | commanding instanceId =>
      simp only [resume] at paused
      split at paused <;> cases paused

namespace Point

theorem parting?_of_isEntrance {next : Point} (entrance : next.isEntrance = true) :
    next.parting? = none := by
  cases next with
  | rebooting afterBuild inner =>
      cases inner with
      | entering => rfl
      | _ => cases afterBuild <;> cases entrance
  | stopping caller inner =>
      cases inner with
      | entering => rfl
      | _ => cases entrance
  | terminating caller inner =>
      cases inner with
      | entering => rfl
      | _ => cases entrance
  | disconnecting inner => cases entrance
  | _ => rfl

/-- No step of a detached node leads to a point where the agent is asked to exit. -/
theorem parting?_of_resume {point next : Point} (detached : world.node.attached = false)
    (paused : point.resume world = .pause next after) : next.parting? = none := by
  cases leads_of_resume paused with
  | rebooting afterBuild begun => exact RebootPoint.parting?_of_resume detached begun
  | stopping caller begun => exact StopPoint.parting?_of_resume detached begun
  | terminating caller begun => exact TerminatePoint.parting?_of_resume detached begun
  | disconnecting begun => exact DisconnectPoint.parting?_of_resume detached begun
  | tearingDown cause begun =>
      rw [DisconnectPoint.enterTeardown_of_detached detached] at begun
      cases begun
  | elsewhere entrance => exact parting?_of_isEntrance entrance
  | _ => rfl

theorem parting?_of_notice {point next : Point} (paused : point.notice world = .pause next after) :
    next = point ∨ next.parting? = none :=
  (eq_or_isEntrance_of_notice paused).imp_right parting?_of_isEntrance

theorem parting?_entry (request : Request) : request.entry.parting? = none := by
  cases request <;> rfl

/-- The step that asks the agent to exit tears the channel down and does nothing else to the
endpoint. It waits for nothing. -/
theorem endpoint_of_parting {point : Point} {cause : Option OfflineCause}
    (parts : point.parting? = some cause) (world : World) :
    point.obstacle = none ∧ (point.resume world).world.endpoint =
      (world.endpoint.requestShutdown.2.teardown cause).2 := by
  have torn : (world.requestShutdown.startTeardown cause).2.endpoint =
      (world.endpoint.requestShutdown.2.teardown cause).2 := by
    rw [(World.frame_startTeardown _ cause).2.1, World.endpoint_requestShutdown]
  cases point with
  | rebooting afterBuild inner =>
      cases inner with
      | disconnecting session inner =>
          obtain rfl := DisconnectPoint.eq_requesting_of_parting? parts
          exact ⟨rfl, torn⟩
      | _ => cases parts
  | stopping caller inner =>
      cases inner with
      | disconnecting inner =>
          obtain rfl := DisconnectPoint.eq_requesting_of_parting? parts
          exact ⟨rfl, torn⟩
      | tearing inner =>
          obtain rfl := DisconnectPoint.eq_requesting_of_parting? parts
          exact ⟨rfl, torn⟩
      | _ => cases parts
  | terminating caller inner =>
      cases inner with
      | disconnecting inner =>
          obtain rfl := DisconnectPoint.eq_requesting_of_parting? parts
          exact ⟨rfl, torn⟩
      | _ => cases parts
  | disconnecting inner =>
      obtain rfl := DisconnectPoint.eq_requesting_of_parting? parts
      exact ⟨rfl, torn⟩
  | _ => cases parts

end Point

/-! ## Reboots and looks -/

theorem RebootPoint.goesOn_resume (point : RebootPoint) (world : World) :
    GoesOn world.transfers (point.resume world).world.transfers := by
  rcases works : point.session? with _ | session
  · cases point with
    | entering =>
        simp only [resume]
        split <;> exact .refl _
    | waiting =>
        rcases begin_eq world with ⟨inner, opened, begun, _, resets, _⟩
        have goesOn : GoesOn world.transfers (begin world).world.transfers := by
          rw [begun]
          exact resets.goesOn
        exact goesOn
    | _ => cases works
  · rcases resume_eq works world with
      ⟨next, later, paused, _, through⟩ | ⟨middle, delay, ended, through⟩
    · rw [paused]
      exact through.goesOn
    · rw [ended]
      exact through.goesOn

namespace LookPoint

/-- Without an endpoint there is no cause to compare, so the look gives its session up. -/
theorem afterFetch_of_detached (detached : world.node.attached = false) (session : Nat)
    (found : Option Snapshot) : ∃ reason, afterFetch session found world =
      .done (abandon session reason world).1 (abandon session reason world).2 := by
  have unseen : world.offlineCause = none := by simp [World.offlineCause, detached]
  simp only [afterFetch, unseen, Option.any_none]
  rcases found.any Snapshot.isAlive with _ | _
  · exact ⟨.instanceGone, rfl⟩
  · exact ⟨.noLongerRebooting, rfl⟩

/-- A look at a detached node schedules nothing and starts no connection. -/
theorem quiet_of_detached (detached : world.node.attached = false) (session : Nat)
    (point : LookPoint) : (point.resume session world).world.agenda = world.agenda ∧
      GoesOn world.transfers (point.resume session world).world.transfers := by
  have abandoned : ∀ reason (middle : World),
      (abandon session reason middle).2.agenda = middle.agenda ∧
        GoesOn middle.transfers (abandon session reason middle).2.transfers := by
    intro reason middle
    have resets := resets_abandon session reason middle
    exact ⟨resets.agenda, resets.goesOn⟩
  cases point with
  | waiting =>
      simp only [resume, begin]
      split
      · exact ⟨rfl, .refl _⟩
      split
      · exact abandoned .nodeRetired world
      split
      · exact abandoned .endpointGone world
      · rename_i attached
        simp [detached] at attached
  | refreshing fetch =>
      have through := fetch.through world
      have attached := fetch.attached_resume world
      rcases fetched : fetch.resume world with ⟨later, middle⟩ | ⟨found, middle⟩
      · rw [fetched] at through
        simp only [resume, fetched]
        exact ⟨through.agenda_eq, through.goesOn⟩
      · rw [fetched] at through attached
        have still : middle.node.attached = false := attached.trans detached
        rcases afterFetch_of_detached still session found with ⟨reason, ended⟩
        simp only [resume, fetched, Stage.andThen_done, ended]
        exact ⟨(abandoned reason middle).1.trans through.agenda_eq,
          through.goesOn.trans (abandoned reason middle).2⟩

end LookPoint

namespace Point

theorem goesOn_rebooting (afterBuild : Bool) (inner : RebootPoint) (world : World) :
    GoesOn world.transfers ((rebooting afterBuild inner).resume world).world.transfers := by
  have goesOn := inner.goesOn_resume world
  rcases ran : inner.resume world with ⟨later, middle⟩ | ⟨result, middle⟩
  · rw [ran] at goesOn
    simp only [resume, ran]
    exact goesOn
  · rw [ran] at goesOn
    simp only [resume, ran, Stage.andThen_done]
    exact goesOn.trans (through_afterReboot afterBuild result middle).goesOn

/-- No step of a detached node starts a connection. -/
theorem goesOn_of_detached (detached : world.node.attached = false) (point : Point) :
    GoesOn world.transfers (point.resume world).world.transfers := by
  cases point with
  | rebooting afterBuild inner => exact goesOn_rebooting afterBuild inner world
  | looking session inner =>
      have goesOn := (inner.quiet_of_detached detached session).2
      rcases ran : inner.resume session world with ⟨later, middle⟩ | ⟨result, middle⟩ <;>
      · rw [ran] at goesOn
        simp only [resume, ran]
        exact goesOn
  | _ => exact (through rfl world).goesOn

/-- On a node that is retired, only a reboot that was let in before schedules a look. -/
theorem agenda_of_detached (retired : world.node.retired = true)
    (detached : world.node.attached = false) {point : Point} (outside : point.isAdmitted = false) :
    (point.resume world).world.agenda = world.agenda := by
  cases point with
  | rebooting afterBuild inner =>
      cases inner with
      | entering =>
          simp only [resume, RebootPoint.resume_entering retired, Stage.andThen_done]
          exact (through_afterReboot afterBuild _ world).agenda_eq
      | _ => cases outside
  | looking session inner =>
      have agenda := (inner.quiet_of_detached detached session).1
      rcases ran : inner.resume session world with ⟨later, middle⟩ | ⟨result, middle⟩ <;>
      · rw [ran] at agenda
        simp only [resume, ran]
        exact agenda
  | _ => exact (through rfl world).agenda_eq

end Point

end BuildAgent
