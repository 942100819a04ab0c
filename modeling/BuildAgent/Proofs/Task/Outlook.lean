import BuildAgent.Proofs.Execution.Deadlock
import BuildAgent.Proofs.World.Outline

/-!
# What comes of a call that is left alone

A reboot, a stop, a termination and the handling of an idle timeout wait for locks and for the end
of their own teardowns, and for nothing else. The outlook of such a call at a point is what comes of
it from there: its answer and the outline of the world at its end. No step changes the outlook
(`Point.meets_resume`), so what comes of the whole call can be read off its entry.

A `Forecast` of a procedure has the outlook together with a bound on the steps that are left and
with the points at which nobody but the procedure itself has to go on. `Stage.Meets` says that a
step keeps to it, and `Stage.Meets.andThen` puts the forecasts of parts together. Only a reboot
looks at the clock, when it schedules the first look at its end; its outlook depends on that time.
-/

namespace BuildAgent

/-- What is foreseen of a procedure at each point. -/
structure Forecast (π σ : Type) where
  /-- Whether the procedure can go on by itself, whatever work was started before a number. -/
  own : π → Prop
  /-- How many steps are left at most. -/
  steps : π → Nat
  /-- What comes of the procedure from a point and an outline of the world. -/
  outlook : π → World → σ

/-- Whether a step keeps to a forecast, with fewer steps left than before. At the end there has to
be what was foreseen. -/
def Stage.Meets {π ρ σ : Type} (started : Nat) (forecast : Forecast π σ)
    (ends : ρ → World → σ → Prop) (steps : Nat) (target : σ) : Stage π ρ → Prop
  | .pause point world => forecast.own point ∧ forecast.steps point < steps ∧
      forecast.outlook point (world.outline started) = target
  | .done result world => ends result world target

/-- Whether the part of a procedure that has ended has left the outline that was foreseen. -/
def World.Leaves {ρ : Type} (started : Nat) (_ : ρ) (world target : World) : Prop :=
  world.outline started = target

/-- Whether a procedure has ended with the answer and the outline that were foreseen. -/
def World.Answers {ρ : Type} (started : Nat) (result : ρ) (world : World) (target : ρ × World) :
    Prop :=
  (result, world.outline started) = target

/-- Whether a procedure has ended with the answer and the outline that were foreseen for the time
of its end. -/
def World.AnswersInTime {ρ : Type} (started : Nat) (result : ρ) (world : World)
    (target : Nat → ρ × World) : Prop :=
  (result, world.outline started) = target world.clock

theorem Stage.Meets.mono {π ρ σ : Type} {started few steps : Nat} {forecast : Forecast π σ}
    {ends : ρ → World → σ → Prop} {stage : Stage π ρ} {target : σ}
    (meets : stage.Meets started forecast ends few target) (le : few ≤ steps) :
    stage.Meets started forecast ends steps target := by
  cases stage with
  | pause point world =>
      rcases meets with ⟨own, less, foreseen⟩
      exact ⟨own, Nat.lt_of_lt_of_le less le, foreseen⟩
  | done result world => exact meets

/-- A procedure keeps to its forecast if its part does, and if it goes on as it should. -/
theorem Stage.Meets.andThen {π π' ρ ρ' σ σ' : Type} {started few steps : Nat}
    {inner : Forecast π σ} {outer : Forecast π' σ'} {partEnds : ρ → World → σ → Prop}
    {ends : ρ' → World → σ' → Prop} {stage : Stage π ρ} {wrap : π → π'}
    {next : ρ → World → Stage π' ρ'} {target : σ}
    (part : stage.Meets started inner partEnds few target) (rest : σ → σ')
    (own : ∀ point, inner.own point → outer.own (wrap point))
    (fewer : ∀ point, inner.steps point < few → outer.steps (wrap point) < steps)
    (outlook : ∀ point world, outer.outlook (wrap point) world = rest (inner.outlook point world))
    (goes : ∀ result world target, partEnds result world target →
      (next result world).Meets started outer ends steps (rest target)) :
    (stage.andThen wrap next).Meets started outer ends steps (rest target) := by
  cases stage with
  | pause point world =>
      rcases part with ⟨alone, less, foreseen⟩
      exact ⟨own point alone, fewer point less, (outlook point _).trans (congrArg rest foreseen)⟩
  | done result world => exact goes result world target part

/-- Whether an obstacle is out of the way by itself: the lock is free, the transfer is one of those
that were started since a moment. -/
def Obstacle.IsOwn (started : Nat) (free : Lock → Bool) : Obstacle → Prop
  | .lock own => free own = true
  | .transfer number => started ≤ number
  | .time _ => False

/-! ## Disconnections and lookups -/

namespace DisconnectPoint

/-- What is foreseen of a disconnection. -/
def forecast (started : Nat) : Forecast DisconnectPoint World where
  own
    | tearing transfer => started ≤ transfer
    | _ => True
  steps := load
  outlook
    | entering cause, world => world.disconnected cause
    | requesting cause, world => world.exitAsked.channelTorn cause
    | tearing _, world => world

variable {started : Nat} {world : World}

theorem load_pos (point : DisconnectPoint) : 0 < point.load := by
  cases point with
  | entering cause => exact Nat.zero_lt_succ 2
  | requesting cause => exact Nat.zero_lt_succ 1
  | tearing transfer => exact Nat.zero_lt_one

theorem meets_tear (cause : Option OfflineCause) (reached : started ≤ world.transfers.length) :
    (tear cause world).Meets started (forecast started) (World.Leaves started) 2
      ((world.outline started).channelTorn cause) := by
  refine ⟨?_, Nat.one_lt_two, world.outline_startTeardown started cause reached⟩
  have number : (world.startTeardown cause).1 = world.transfers.length := by
    simp only [World.startTeardown]
    split <;> rfl
  exact number ▸ reached

theorem meets_enterTeardown (cause : Option OfflineCause)
    (reached : started ≤ world.transfers.length) :
    (enterTeardown cause world).Meets started (forecast started) (World.Leaves started) 2
      ((world.outline started).parted cause) := by
  rcases attached : world.node.attached with _ | _
  · simp only [enterTeardown, attached, World.parted, World.node_outline]
    exact (rfl : world.outline started = world.outline started)
  · simp only [enterTeardown, attached, World.parted, World.node_outline]
    exact meets_tear cause reached

theorem meets_enter (cause : Option OfflineCause) (reached : started ≤ world.transfers.length) :
    (enter cause world).Meets started (forecast started) (World.Leaves started) 3
      ((world.outline started).disconnected cause) := by
  rcases attached : world.node.attached with _ | _
  · simp only [enter, attached, World.disconnected, World.node_outline]
    exact world.outline_note started .nothingToDisconnect
  · rcases asks : world.node.longLived && world.endpoint.channelPresent with _ | _
    · simp only [enter, attached, asks, World.disconnected, World.node_outline,
        World.endpoint_outline]
      rcases meets_tear cause reached with ⟨own, less, foreseen⟩
      exact ⟨own, Nat.lt_succ_of_lt less, foreseen⟩
    · simp only [enter, attached, asks, World.disconnected, World.node_outline,
        World.endpoint_outline]
      exact ⟨trivial, Nat.lt_succ_self 2, rfl⟩

theorem isOwn_obstacle {free : Lock → Bool} (point : DisconnectPoint)
    (own : (forecast started).own point) {obstacle : Obstacle}
    (waits : point.obstacle = some obstacle) : obstacle.IsOwn started free := by
  cases point with
  | tearing transfer =>
      cases waits
      exact own
  | _ => cases waits

theorem meets_resume {point : DisconnectPoint} (own : (forecast started).own point)
    (known : ∀ transfer, point.obstacle = some (.transfer transfer) →
      (world.outcome? transfer).isSome = true)
    (reached : started ≤ world.transfers.length) :
    (point.resume world).Meets started (forecast started) (World.Leaves started) point.load
      ((forecast started).outlook point (world.outline started)) := by
  cases point with
  | entering cause => exact meets_enter cause reached
  | requesting cause =>
      have transfers : started ≤ world.requestShutdown.transfers.length := by
        rw [World.transfers_requestShutdown]
        exact reached
      have torn := meets_tear cause transfers
      rw [World.outline_requestShutdown] at torn
      exact torn
  | tearing transfer =>
      rcases Option.isSome_iff_exists.mp (known transfer rfl) with ⟨outcome, ended⟩
      simp only [resume, ended]
      exact world.outline_noteTeardown started outcome

end DisconnectPoint

namespace LookupPoint

/-- What is foreseen of a lookup whose result is only noted. -/
def forecast : Forecast LookupPoint World where
  own _ := True
  steps
    | waiting => 2
    | describing _ => 1
  outlook
    | waiting, world =>
      match world.node.capacity.bound? with
      | none => world
      | some instanceId => world.described instanceId
    | describing instanceId, world => world.described instanceId

theorem isOwn_obstacle {started : Nat} {free : Lock → Bool} (point : LookupPoint)
    (cacheFree : free .cache = true) {obstacle : Obstacle}
    (waits : point.obstacle = some obstacle) : obstacle.IsOwn started free := by
  cases point with
  | waiting =>
      cases waits
      exact cacheFree
  | describing instanceId => cases waits

theorem meets_resume (started : Nat) (point : LookupPoint) (world : World) :
    (point.resume world).Meets started forecast (World.Leaves started) (forecast.steps point)
      (forecast.outlook point (world.outline started)) := by
  cases point with
  | waiting =>
      rcases bound : world.node.capacity.bound? with _ | instanceId
      · simp only [resume, bound, forecast, World.node_outline]
        exact (rfl : world.outline started = world.outline started)
      · simp only [resume, bound, forecast, World.node_outline]
        exact ⟨trivial, Nat.one_lt_two, rfl⟩
  | describing instanceId =>
      rcases asked : world.ask fun provider => provider.describe [instanceId] with
        ⟨failure | found, after⟩
      · simp only [resume, asked]
        exact (world.outline_of_ask started asked).2
      · simp only [resume, asked]
        exact (world.outline_of_ask started asked).2

end LookupPoint

/-! ## Stops and terminations -/

namespace StopPoint

/-- What comes of the command to stop: whether it is accepted, and the outline that it leaves. -/
def commandOutlook (instanceId : InstanceId) (world : World) : Bool × World :=
  let sent := world.commanded .stop instanceId
  if world.provider.accepts .stop instanceId then
    (true, sent.parted none)
  else (false, LookupPoint.forecast.outlook .waiting sent)

/-- What comes of a stop once the node is disconnected. -/
def bindingOutlook (world : World) : Bool × World :=
  match world.node.capacity.bound? with
  | some instanceId => commandOutlook instanceId world
  | none => (false, world)

theorem bindingOutlook_eq (world : World) : bindingOutlook world =
    ((world.accepted? .stop).isSome,
      if (world.accepted? .stop).isSome then (world.sent .stop true).parted none
      else world.sent .stop true) := by
  rcases bound : world.node.capacity.bound? with _ | instanceId
  · simp only [bindingOutlook, World.accepted?, World.sent, bound]
    rfl
  · have still : (world.commanded .stop instanceId).node.capacity.bound? = some instanceId := bound
    simp only [bindingOutlook, bound, commandOutlook, World.accepted?_of_bound bound, World.sent,
      LookupPoint.forecast, still]
    cases world.provider.accepts .stop instanceId <;> rfl

/-- What is foreseen of a stop. -/
def forecast (started : Nat) : Forecast StopPoint (Bool × World) where
  own
    | disconnecting point => (DisconnectPoint.forecast started).own point
    | tearing point => (DisconnectPoint.forecast started).own point
    | _ => True
  steps
    | entering => 7
    | disconnecting point => point.load + 4
    | binding => 4
    | commanding _ => 3
    | tearing point => point.load
    | diagnosing _ _ point => LookupPoint.forecast.steps point
  outlook
    | entering, world => bindingOutlook (world.disconnected none)
    | disconnecting point, world =>
      bindingOutlook ((DisconnectPoint.forecast started).outlook point world)
    | binding, world => bindingOutlook world
    | commanding instanceId, world => commandOutlook instanceId world
    | tearing point, world => (true, (DisconnectPoint.forecast started).outlook point world)
    | diagnosing _ _ point, world => (false, LookupPoint.forecast.outlook point world)

variable {started : Nat} {world : World}

/-- Once the node is disconnected, a stop looks for the instance. -/
theorem meets_disconnected {stage : Stage DisconnectPoint Unit} {few : Nat} {target : World}
    (part : stage.Meets started (DisconnectPoint.forecast started) (World.Leaves started) few
      target) (busy : 0 < few) :
    (stage.andThen disconnecting fun () world => .pause binding world).Meets started
      (forecast started) (World.Answers started) (few + 4) (bindingOutlook target) := by
  refine part.andThen bindingOutlook (fun _ own => own) ?_ (fun _ _ => rfl) ?_
  · intro point less
    exact Nat.add_lt_add_right less 4
  · rintro ⟨⟩ world target rfl
    exact ⟨trivial, Nat.lt_add_of_pos_left busy, rfl⟩

theorem meets_commanding (instanceId : InstanceId) (reached : started ≤ world.transfers.length) :
    ((commanding instanceId).resume world).Meets started (forecast started)
      (World.Answers started) 3 (commandOutlook instanceId (world.outline started)) := by
  rcases asked : world.ask fun provider => provider.command .stop instanceId with
    ⟨failure | ⟨⟩, after⟩
  · rcases world.outline_of_command started asked with ⟨refused, outline, _⟩
    simp only [resume, asked, commandOutlook, World.provider_outline, refused, ← outline]
    exact ⟨trivial, Nat.lt_succ_self 2, rfl⟩
  · rcases world.outline_of_command started asked with ⟨accepted, outline, transfers⟩
    simp only [resume, asked, commandOutlook, World.provider_outline, accepted, ← outline]
    have noted : started ≤ (after.note (.stopSent instanceId)).transfers.length :=
      transfers ▸ reached
    have torn := DisconnectPoint.meets_enterTeardown none noted
    refine torn.andThen (Prod.mk true) (fun _ own => own) ?_ (fun _ _ => rfl) ?_
    · intro point less
      exact Nat.lt_succ_of_lt less
    · rintro ⟨⟩ world target rfl
      rfl

theorem meets_resume {point : StopPoint} (own : (forecast started).own point)
    (known : ∀ transfer, point.obstacle = some (.transfer transfer) →
      (world.outcome? transfer).isSome = true)
    (reached : started ≤ world.transfers.length) :
    (point.resume world).Meets started (forecast started) (World.Answers started)
      ((forecast started).steps point)
      ((forecast started).outlook point (world.outline started)) := by
  cases point with
  | entering =>
      exact meets_disconnected (DisconnectPoint.meets_enter none reached) (Nat.zero_lt_succ 2)
  | disconnecting inner =>
      exact meets_disconnected (DisconnectPoint.meets_resume own known reached) inner.load_pos
  | binding =>
      rcases bound : world.node.capacity.bound? with _ | instanceId
      · simp only [resume, bound, forecast, bindingOutlook, World.node_outline]
        exact congrArg (Prod.mk false) (world.outline_note started .stopNotSent)
      · simp only [resume, bound, forecast, bindingOutlook, World.node_outline]
        exact ⟨trivial, Nat.lt_succ_self 3, rfl⟩
  | commanding instanceId => exact meets_commanding instanceId reached
  | tearing inner =>
      have part := DisconnectPoint.meets_resume own known reached
      refine part.andThen (Prod.mk true) (fun _ own => own) (fun _ less => less)
        (fun _ _ => rfl) ?_
      rintro ⟨⟩ world target rfl
      rfl
  | diagnosing instanceId failure inner =>
      have part := inner.meets_resume started world
      refine part.andThen (Prod.mk false) (fun _ _ => trivial) (fun _ less => less)
        (fun _ _ => rfl) ?_
      rintro found world target rfl
      rfl

end StopPoint

namespace TerminatePoint

/-- What comes of the command to terminate: whether it is accepted, and the outline it leaves. -/
def commandOutlook (instanceId : InstanceId) (world : World) : Bool × World :=
  (world.provider.accepts .terminate instanceId, world.commanded .terminate instanceId)

/-- What comes of a termination once the node is disconnected. -/
def bindingOutlook (world : World) : Bool × World :=
  match world.node.capacity.bound? with
  | some instanceId => commandOutlook instanceId world
  | none => (false, world)

theorem bindingOutlook_eq (world : World) : bindingOutlook world =
    ((world.accepted? .terminate).isSome, world.sent .terminate false) := by
  rcases bound : world.node.capacity.bound? with _ | instanceId
  · simp only [bindingOutlook, World.accepted?, World.sent, bound]
    rfl
  · simp only [bindingOutlook, bound, commandOutlook, World.accepted?_of_bound bound, World.sent]
    cases world.provider.accepts .terminate instanceId <;> rfl

/-- What is foreseen of a termination. -/
def forecast (started : Nat) : Forecast TerminatePoint (Bool × World) where
  own
    | disconnecting point => (DisconnectPoint.forecast started).own point
    | _ => True
  steps
    | entering => 5
    | disconnecting point => point.load + 2
    | binding => 2
    | commanding _ => 1
  outlook
    | entering, world => bindingOutlook (world.disconnected none)
    | disconnecting point, world =>
      bindingOutlook ((DisconnectPoint.forecast started).outlook point world)
    | binding, world => bindingOutlook world
    | commanding instanceId, world => commandOutlook instanceId world

variable {started : Nat} {world : World}

/-- Once the node is disconnected, a termination looks for the instance. -/
theorem meets_disconnected {stage : Stage DisconnectPoint Unit} {few : Nat} {target : World}
    (part : stage.Meets started (DisconnectPoint.forecast started) (World.Leaves started) few
      target) (busy : 0 < few) :
    (stage.andThen disconnecting fun () world => .pause binding world).Meets started
      (forecast started) (World.Answers started) (few + 2) (bindingOutlook target) := by
  refine part.andThen bindingOutlook (fun _ own => own) ?_ (fun _ _ => rfl) ?_
  · intro point less
    exact Nat.add_lt_add_right less 2
  · rintro ⟨⟩ world target rfl
    exact ⟨trivial, Nat.lt_add_of_pos_left busy, rfl⟩

theorem meets_resume {point : TerminatePoint} (own : (forecast started).own point)
    (known : ∀ transfer, point.obstacle = some (.transfer transfer) →
      (world.outcome? transfer).isSome = true)
    (reached : started ≤ world.transfers.length) :
    (point.resume world).Meets started (forecast started) (World.Answers started)
      ((forecast started).steps point)
      ((forecast started).outlook point (world.outline started)) := by
  cases point with
  | entering =>
      exact meets_disconnected (DisconnectPoint.meets_enter none reached) (Nat.zero_lt_succ 2)
  | disconnecting inner =>
      exact meets_disconnected (DisconnectPoint.meets_resume own known reached) inner.load_pos
  | binding =>
      rcases bound : world.node.capacity.bound? with _ | instanceId
      · simp only [resume, bound, forecast, bindingOutlook, World.node_outline]
        exact congrArg (Prod.mk false) (world.outline_note started .terminateNotSent)
      · simp only [resume, bound, forecast, bindingOutlook, World.node_outline]
        exact ⟨trivial, Nat.lt_succ_self 1, rfl⟩
  | commanding instanceId =>
      rcases asked : world.ask fun provider => provider.command .terminate instanceId with
        ⟨failure | ⟨⟩, after⟩ <;>
      · rcases world.outline_of_command started asked with ⟨answered, outline, _⟩
        simp only [resume, asked, forecast, commandOutlook, World.provider_outline, answered,
          ← outline]
        rfl

end TerminatePoint

/-! ## Reboots -/

namespace RebootPoint

/-- The end of a reboot: the first look of its session is scheduled. -/
def finishOutlook (session : Nat) (world : World) (now : Nat) : Except Refusal Nat × World :=
  (.ok session, world.bookedAt now session world.node.timings.reboot.initialDelay)

/-- What comes of the command to reboot. -/
def commandOutlook (session : Nat) (instanceId : InstanceId) (world : World) :
    Nat → Except Refusal Nat × World :=
  let sent := world.commanded .reboot instanceId
  finishOutlook session
    (if world.provider.accepts .reboot instanceId then sent
      else LookupPoint.forecast.outlook .waiting sent)

/-- What comes of a reboot once the node is disconnected. -/
def bindingOutlook (session : Nat) (world : World) : Nat → Except Refusal Nat × World :=
  match world.node.capacity.bound? with
  | some instanceId => commandOutlook session instanceId world
  | none => finishOutlook session world

theorem bindingOutlook_eq (session : Nat) (world : World) :
    bindingOutlook session world = finishOutlook session (world.sent .reboot true) := by
  rcases bound : world.node.capacity.bound? with _ | instanceId
  · simp only [bindingOutlook, World.sent, bound]
  · have still : (world.commanded .reboot instanceId).node.capacity.bound? = some instanceId :=
      bound
    simp only [bindingOutlook, bound, commandOutlook, World.sent, LookupPoint.forecast, still]
    cases world.provider.accepts .reboot instanceId <;> rfl

/-- What comes of a reboot that is let in. -/
def waitingOutlook (world : World) : Nat → Except Refusal Nat × World :=
  let opened := world.openSession
  let session := opened.node.session.generation
  bindingOutlook session
    ((opened.markedOffline (.reboot session)).disconnected (some (.reboot session)))

/-- What is foreseen of a reboot. -/
def forecast (started : Nat) : Forecast RebootPoint (Nat → Except Refusal Nat × World) where
  own
    | disconnecting _ point => (DisconnectPoint.forecast started).own point
    | _ => True
  steps := load
  outlook
    | entering, world =>
      if world.node.retired then fun _ => (.error (.retired world.node.name), world)
      else waitingOutlook world
    | waiting, world => waitingOutlook world
    | disconnecting session point, world =>
      bindingOutlook session ((DisconnectPoint.forecast started).outlook point world)
    | binding session, world => bindingOutlook session world
    | commanding session instanceId, world => commandOutlook session instanceId world
    | diagnosing session _ _ point, world =>
      finishOutlook session (LookupPoint.forecast.outlook point world)

variable {started : Nat} {world : World}

/-- Once the node is disconnected, a reboot looks for the instance. -/
theorem meets_disconnected (session : Nat) {stage : Stage DisconnectPoint Unit} {few : Nat}
    {target : World} (part : stage.Meets started (DisconnectPoint.forecast started)
      (World.Leaves started) few target) (busy : 0 < few) :
    (stage.andThen (disconnecting session) fun () world => .pause (binding session) world).Meets
      started (forecast started) (World.AnswersInTime started) (few + 4)
      (bindingOutlook session target) := by
  refine part.andThen (bindingOutlook session) (fun _ own => own) ?_ (fun _ _ => rfl) ?_
  · intro point less
    exact Nat.add_lt_add_right less 4
  · rintro ⟨⟩ world target rfl
    exact ⟨trivial, Nat.lt_add_of_pos_left busy, rfl⟩

theorem meets_finish (session few : Nat) (world : World) :
    (finish session world).Meets started (forecast started) (World.AnswersInTime started) few
      (finishOutlook session (world.outline started)) :=
  rfl

theorem meets_begin (reached : started ≤ world.transfers.length) :
    (begin world).Meets started (forecast started) (World.AnswersInTime started) 7
      (waitingOutlook (world.outline started)) := by
  let opened := world.openSession
  let session := opened.node.session.generation
  let prepared := (opened.note (.preparingReboot session)).takeOffline (.reboot session)
  have there : started ≤ prepared.transfers.length := by
    simp only [prepared, opened, World.openSession, World.abortAttempt, World.frame_takeOffline,
      World.frame_note, World.frame_withSession]
    split
    · simpa only [World.abort, List.length_modify] using reached
    · exact reached
  have outline : prepared.outline started =
      ((world.outline started).openSession).markedOffline (.reboot session) := by
    simp only [prepared, opened, World.outline_takeOffline, World.outline_note,
      World.outline_openSession]
  have numbered : (world.outline started).openSession.node.session.generation = session :=
    congrArg (fun world => world.node.session.generation) (world.outline_openSession started).symm
  have entered := DisconnectPoint.meets_enter (some (.reboot session)) there
  rw [outline] at entered
  simp only [waitingOutlook, numbered]
  exact meets_disconnected session entered (Nat.zero_lt_succ 2)

theorem meets_commanding (session : Nat) (instanceId : InstanceId) :
    ((commanding session instanceId).resume world).Meets started (forecast started)
      (World.AnswersInTime started) 3
      (commandOutlook session instanceId (world.outline started)) := by
  rcases asked : world.ask fun provider => provider.command .reboot instanceId with
    ⟨failure | ⟨⟩, after⟩
  · rcases world.outline_of_command started asked with ⟨refused, outline, _⟩
    simp only [resume, asked, commandOutlook, World.provider_outline, refused, ← outline]
    exact ⟨trivial, Nat.lt_succ_self 2, rfl⟩
  · rcases world.outline_of_command started asked with ⟨accepted, outline, _⟩
    simp only [resume, asked, commandOutlook, World.provider_outline, accepted, ← outline]
    exact meets_finish session 3 (after.note (.rebootSent instanceId))

theorem meets_resume {point : RebootPoint} (own : (forecast started).own point)
    (known : ∀ transfer, point.obstacle = some (.transfer transfer) →
      (world.outcome? transfer).isSome = true)
    (reached : started ≤ world.transfers.length) :
    (point.resume world).Meets started (forecast started) (World.AnswersInTime started)
      ((forecast started).steps point)
      ((forecast started).outlook point (world.outline started)) := by
  cases point with
  | entering =>
      rcases retired : world.node.retired with _ | _
      · simp only [resume, retired, forecast, World.node_outline]
        exact ⟨trivial, Nat.lt_succ_self 8, rfl⟩
      · simp only [resume, retired, forecast, World.node_outline]
        rfl
  | waiting => exact (meets_begin reached).mono (Nat.le_succ 7)
  | disconnecting session inner =>
      exact meets_disconnected session (DisconnectPoint.meets_resume own known reached)
        inner.load_pos
  | binding session =>
      rcases bound : world.node.capacity.bound? with _ | instanceId
      · simp only [resume, bound, forecast, bindingOutlook, World.node_outline]
        exact meets_finish session 4 (world.note .rebootNotSent)
      · simp only [resume, bound, forecast, bindingOutlook, World.node_outline]
        exact ⟨trivial, Nat.lt_succ_self 3, rfl⟩
  | commanding session instanceId => exact meets_commanding session instanceId
  | diagnosing session instanceId failure inner =>
      have part := inner.meets_resume started world
      have steps : ∀ point, LookupPoint.forecast.steps point =
          (diagnosing session instanceId failure point).load := by
        rintro (_ | own) <;> rfl
      refine part.andThen (finishOutlook session) (fun _ _ => trivial) ?_ (fun _ _ => rfl) ?_
      · intro point less
        rw [steps, steps] at less
        exact less
      · rintro found world target rfl
        rfl

end RebootPoint

/-! ## Calls -/

namespace Caller

/-- Whether somebody waits for the answer. A watchdog goes on instead. -/
def isAnswered : Caller → Bool
  | watchdog _ => false
  | _ => true

/-- Whether a termination that was accepted takes the node out of management. -/
def retires : Caller → Bool
  | instanceCommand => false
  | _ => true

/-- What a caller is told of what it was about. -/
def answer (caller : Caller) (action : Bool → IdleAction) (accepted : Bool) : Answer :=
  match caller with
  | idleTimeout => .idle (action accepted)
  | _ => .truth accepted

end Caller

namespace Point

/-- What comes of a stop for its caller. -/
def stopOutlook (caller : Caller) (stopped : Bool × World) (_ : Nat) : Answer × World :=
  (caller.answer .stopped stopped.1, stopped.2)

/-- What comes of a termination for its caller. -/
def terminationOutlook (caller : Caller) (terminated : Bool × World) (_ : Nat) : Answer × World :=
  (caller.answer .terminated terminated.1,
    if caller.retires && terminated.1 then terminated.2.leftManagement else terminated.2)

/-- What comes of a reboot for its caller. -/
def rebootOutlook (rebooted : Nat → Except Refusal Nat × World) (now : Nat) : Answer × World :=
  (.rebooted (rebooted now).1, (rebooted now).2)

/-- What is foreseen of a call that goes on by itself as long as some locks are free. Nothing is
foreseen of the other tasks. -/
def forecast (started : Nat) (free : Lock → Bool) : Forecast Point (Nat → Answer × World) where
  own
    | rebooting false point =>
      (RebootPoint.forecast started).own point ∧ free .session = true ∧ free .cache = true
    | stopping caller point =>
      (StopPoint.forecast started).own point ∧ caller.isAnswered = true ∧ free .cache = true
    | terminating caller point =>
      (TerminatePoint.forecast started).own point ∧ caller.isAnswered = true ∧ free .cache = true
    | consulting (.idleAction caller) =>
      caller.isAnswered = true ∧ free .definition = true ∧ free .cache = true
    | _ => False
  steps
    | rebooting _ point => point.load
    | stopping _ point => (StopPoint.forecast started).steps point
    | terminating _ point => (TerminatePoint.forecast started).steps point
    | consulting _ => 8
    | _ => 0
  outlook
    | rebooting _ point, world =>
      rebootOutlook ((RebootPoint.forecast started).outlook point world)
    | stopping caller point, world =>
      stopOutlook caller ((StopPoint.forecast started).outlook point world)
    | terminating caller point, world =>
      terminationOutlook caller ((TerminatePoint.forecast started).outlook point world)
    | consulting (.idleAction caller), world =>
      if world.node.definition.stopOnTerminate then
        stopOutlook caller ((StopPoint.forecast started).outlook .entering world)
      else terminationOutlook caller ((TerminatePoint.forecast started).outlook .entering world)
    | _, world => fun _ => (.nothing, world)

variable {started few : Nat} {free : Lock → Bool} {world : World} {point : Point}

theorem meets_afterStop {caller : Caller} (answered : caller.isAnswered = true) (accepted : Bool)
    (world : World) :
    (afterStop caller accepted world).Meets started (forecast started free)
      (World.AnswersInTime started) few (stopOutlook caller (accepted, world.outline started)) := by
  cases caller with
  | watchdog watch => cases answered
  | _ => rfl

theorem meets_afterTermination {caller : Caller} (answered : caller.isAnswered = true)
    (accepted : Bool) (world : World) :
    (afterTermination caller accepted world).Meets started (forecast started free)
      (World.AnswersInTime started) few
      (terminationOutlook caller (accepted, world.outline started)) := by
  have retired := congrArg (Prod.mk (caller.answer .terminated true)) (world.outline_retire started)
  cases caller with
  | watchdog watch => cases answered
  | instanceCommand => rfl
  | nodeCommand =>
      cases accepted with
      | false => rfl
      | true => exact retired
  | idleTimeout =>
      cases accepted with
      | false => rfl
      | true => exact retired

/-- **No step changes what comes of a call.** -/
theorem meets_resume (own : (forecast started free).own point)
    (known : ∀ transfer, point.obstacle = some (.transfer transfer) →
      (world.outcome? transfer).isSome = true)
    (reached : started ≤ world.transfers.length) :
    (point.resume world).Meets started (forecast started free) (World.AnswersInTime started)
      ((forecast started free).steps point)
      ((forecast started free).outlook point (world.outline started)) := by
  cases point with
  | rebooting afterBuild inner =>
      cases afterBuild with
      | true => cases own
      | false =>
          rcases own with ⟨own, sessionFree, cacheFree⟩
          have part := RebootPoint.meets_resume own known reached
          refine part.andThen rebootOutlook (fun _ alone => ⟨alone, sessionFree, cacheFree⟩)
            (fun _ less => less) (fun _ _ => rfl) ?_
          intro result after target ended
          exact congrArg (Prod.map Answer.rebooted id) ended
  | stopping caller inner =>
      rcases own with ⟨own, answered, cacheFree⟩
      have part := StopPoint.meets_resume own known reached
      refine part.andThen (stopOutlook caller) (fun _ alone => ⟨alone, answered, cacheFree⟩)
        (fun _ less => less) (fun _ _ => rfl) ?_
      rintro accepted after target rfl
      exact meets_afterStop answered accepted after
  | terminating caller inner =>
      rcases own with ⟨own, answered, cacheFree⟩
      have part := TerminatePoint.meets_resume own known reached
      refine part.andThen (terminationOutlook caller)
        (fun _ alone => ⟨alone, answered, cacheFree⟩) (fun _ less => less) (fun _ _ => rfl) ?_
      rintro accepted after target rfl
      exact meets_afterTermination answered accepted after
  | consulting consultation =>
      cases consultation with
      | idleAction caller =>
          rcases own with ⟨answered, _, cacheFree⟩
          rcases stops : world.node.definition.stopOnTerminate with _ | _
          · simp only [resume, consult, stops, forecast, World.node_outline]
            exact ⟨⟨trivial, answered, cacheFree⟩, (by decide : 5 < 8), rfl⟩
          · simp only [resume, consult, stops, forecast, World.node_outline]
            exact ⟨⟨trivial, answered, cacheFree⟩, (by decide : 7 < 8), rfl⟩
      | _ => cases own
  | _ => cases own

/-- What such a call waits for is free, or is its own. -/
theorem isOwn_obstacle (own : (forecast started free).own point) {obstacle : Obstacle}
    (waits : point.obstacle = some obstacle) : obstacle.IsOwn started free := by
  cases point with
  | rebooting afterBuild inner =>
      cases afterBuild with
      | true => cases own
      | false =>
          rcases own with ⟨own, sessionFree, cacheFree⟩
          cases inner with
          | disconnecting session part => exact part.isOwn_obstacle own waits
          | diagnosing session instanceId failure part => exact part.isOwn_obstacle cacheFree waits
          | waiting =>
              cases waits
              exact sessionFree
          | binding session =>
              cases waits
              exact cacheFree
          | _ => cases waits
  | stopping caller inner =>
      rcases own with ⟨own, _, cacheFree⟩
      cases inner with
      | disconnecting part => exact part.isOwn_obstacle own waits
      | tearing part => exact part.isOwn_obstacle own waits
      | diagnosing instanceId failure part => exact part.isOwn_obstacle cacheFree waits
      | binding =>
          cases waits
          exact cacheFree
      | _ => cases waits
  | terminating caller inner =>
      rcases own with ⟨own, _, cacheFree⟩
      cases inner with
      | disconnecting part => exact part.isOwn_obstacle own waits
      | binding =>
          cases waits
          exact cacheFree
      | _ => cases waits
  | consulting consultation =>
      cases consultation with
      | idleAction caller =>
          cases waits
          exact own.2.1
      | _ => cases own
  | _ => cases own

/-- Such a call starts no connection. -/
theorem goesOn_of_own (own : (forecast started free).own point) (world : World) :
    GoesOn world.transfers (point.resume world).world.transfers := by
  cases point with
  | rebooting afterBuild inner => exact goesOn_rebooting afterBuild inner world
  | looking session inner => cases own
  | _ => exact (through rfl world).goesOn

end Point

end BuildAgent
