import BuildAgent.Proofs.Monitor.Commands
import BuildAgent.Proofs.Tagging.Redefinition

/-!
# The binding of a node

What a node runs on is kept with its cache, what it was told is kept in its definition, and whether
its agent lives long is kept with its connection. Different procedures update the three under
different locks. They agree all the same (`Outset.binding_is_coherent`): the capacity model is that
of the first definition, the node is bound to the instance that was assigned last, or else to the
one it began with, and a reconfiguration takes the binding over into the new definition, whatever
that definition says itself.

An assignment is the only procedure that touches the capacity (`Execution.Step.capacity`). It takes
effect in the step with which it ends, so the reports tell the binding.
-/

namespace BuildAgent

namespace Capacity

/-- The request that a spot instance fulfils; an on-demand instance has none. -/
def spotRequest? : Capacity → Option SpotRequestId
  | onDemand _ => none
  | spot request _ => some request

@[simp]
theorem spotRequest?_bind (capacity : Capacity) (instanceId : InstanceId) :
    (capacity.bind instanceId).spotRequest? = capacity.spotRequest? := by
  cases capacity <;> rfl

@[simp]
theorem bind_bind (capacity : Capacity) (earlier later : InstanceId) :
    (capacity.bind earlier).bind later = capacity.bind later := by
  cases capacity <;> rfl

theorem bind_eq_self {capacity : Capacity} {instanceId : InstanceId}
    (bound : capacity.bound? = some instanceId) : capacity.bind instanceId = capacity := by
  cases capacity <;> cases bound <;> rfl

end Capacity

@[simp]
theorem Node.capacity_bind (node : Node) (instanceId : InstanceId) :
    (node.bind instanceId).capacity = node.capacity.bind instanceId := by
  by_cases bound : node.capacity.bound? = some instanceId
  · simp [bind, bound, Capacity.bind_eq_self bound]
  · simp [bind, bound]

/-- The instance that a new node is bound to: the one that its definition gives, or else, on demand,
the one that the node is named after. -/
def Definition.firstInstance? (definition : Definition) : Option InstanceId :=
  match definition.capacity with
  | some (.spot _ explicit) => explicit
  | some (.onDemand (some explicit)) => some explicit
  | _ => Identifier.parse? .machine definition.name

theorem Definition.initialCapacity_eq (definition : Definition) :
    definition.initialCapacity.bound? = definition.firstInstance? ∧
      definition.initialCapacity.spotRequest? =
        definition.capacity.bind Capacity.spotRequest? := by
  simp only [initialCapacity, firstInstance?]
  rcases definition.capacity with _ | ⟨_ | explicit⟩ | ⟨request, explicit⟩ <;> exact ⟨rfl, rfl⟩

/-! ## Which tasks alter the binding or the definition -/

namespace Point

/-- The assignment or the reconfiguration that a task at a point works on. -/
def alters? : Point → Option Request
  | assigning instanceId announce => some (.assign instanceId announce)
  | reconfiguring definition _ => some (.reconfigure definition)
  | _ => none

variable {point next : Point} {world after : World}

theorem alters?_of_isEntrance (entrance : next.isEntrance = true) : next.alters? = none := by
  cases next with
  | assigning instanceId announce => cases entrance
  | reconfiguring definition inner => cases entrance
  | _ => rfl

theorem alters?_of_resume (paused : point.resume world = .pause next after) :
    next.alters? = point.alters? := by
  cases point with
  | assigning instanceId announce => cases paused
  | reconfiguring definition inner =>
      rcases Stage.pause_of_andThen_done paused with ⟨later, _, rfl⟩
      rfl
  | _ =>
      cases leads_of_resume paused with
      | elsewhere entrance => exact alters?_of_isEntrance entrance
      | _ => rfl

theorem alters?_of_notice (paused : point.notice world = .pause next after) :
    next.alters? = point.alters? := by
  cases point with
  | watching watch =>
      rcases eq_or_isEntrance_of_notice paused with rfl | entrance
      · rfl
      · exact alters?_of_isEntrance entrance
  | _ =>
      cases paused
      rfl

theorem alters?_entry {request asked : Request} (alters : request.entry.alters? = some asked) :
    request = asked := by
  cases request <;> cases alters <;> rfl

end Point

theorem Point.assigning_of_isBinding {point : Point} (binds : point.isBinding = true) :
    ∃ instanceId announce, point = .assigning instanceId announce := by
  cases point with
  | assigning instanceId announce => exact ⟨instanceId, announce, rfl⟩
  | _ => cases binds

theorem Point.capacity_assign (instanceId : InstanceId) (announce : Bool) (world : World) :
    (assign instanceId announce world).world.node.capacity =
      world.node.capacity.bind instanceId := by
  simp only [assign, Stage.world]
  split <;> exact world.node.capacity_bind instanceId

/-- The instance that a request assigns to the node. -/
def Request.assigned? : Request → Option InstanceId
  | assign instanceId _ => some instanceId
  | _ => none

namespace Execution

/-- The instance of the last assignment that has ended. -/
def lastAssigned? (execution : Execution) : Option InstanceId :=
  execution.reports.findSome? fun report => report.request.assigned?

/-- That who was asked to assign an instance or to reconfigure the node, and nobody else, does
so. -/
def Altering (execution : Execution) : Prop :=
  ∀ task, task ∈ execution.running → task.point.alters? = task.request.entry.alters?

variable {execution before after : Execution} {move : Move} {task : Task}

theorem Takes.alters? {next : Point} {world : World}
    (takes : execution.Takes task move (.pause next world)) :
    next.alters? = task.point.alters? := by
  generalize stage_eq : Stage.pause next world = stage at takes
  cases takes with
  | resume ready => exact Point.alters?_of_resume stage_eq.symm
  | notice news => exact Point.alters?_of_notice stage_eq.symm

theorem Altering.step (altering : before.Altering) (step : before.Step move after) :
    after.Altering :=
  step.view_entry Takes.alters? altering

theorem Altering.assigned? (altering : execution.Altering) (running : task ∈ execution.running) :
    task.request.assigned? = task.point.alters?.bind Request.assigned? := by
  rw [altering task running]
  cases task.request <;> rfl

theorem Altering.request (altering : execution.Altering) (running : task ∈ execution.running)
    {asked : Request} (alters : task.point.alters? = some asked) : task.request = asked :=
  Point.alters?_entry ((altering task running).symm.trans alters)

theorem lastAssigned?_replace (earlier later : List Task) (stage : Stage Point Answer) :
    (execution.replace earlier task later stage).lastAssigned? =
      if stage.point?.isSome then execution.lastAssigned?
      else task.request.assigned?.or execution.lastAssigned? := by
  cases stage with
  | pause next world => rfl
  | done answer world =>
      simp only [lastAssigned?, replace, Stage.reported, List.singleton_append,
        List.findSome?_cons]
      cases task.request.assigned? <;> rfl

theorem Altering.unassigned (altering : execution.Altering) (running : task ∈ execution.running)
    (other : task.point.isBinding = false) : task.request.assigned? = none := by
  rw [altering.assigned? running]
  generalize task.point = point at other
  cases point with
  | assigning instanceId announce => cases other
  | _ => rfl

/-- A step of a task that assigns nothing leaves the reports on assignments alone. -/
theorem lastAssigned?_of_unassigned (unassigned : task.request.assigned? = none)
    (earlier later : List Task) (stage : Stage Point Answer) :
    (execution.replace earlier task later stage).lastAssigned? = execution.lastAssigned? := by
  rw [lastAssigned?_replace, unassigned]
  split <;> rfl

/-- Only an assignment touches the capacity, in the step with which it ends. -/
theorem Step.capacity (altering : before.Altering) (step : before.Step move after) :
    (after.world.node.capacity = before.world.node.capacity ∧
      after.lastAssigned? = before.lastAssigned?) ∨
    ∃ task instanceId announce, task ∈ before.running ∧ move = .resume task.number ∧
      task.request = .assign instanceId announce ∧
      after.world.node.capacity = before.world.node.capacity.bind instanceId ∧
      after.lastAssigned? = some instanceId := by
  cases step with
  | idle move => exact .inl ⟨rfl, rfl⟩
  | outside move change changes =>
      exact .inl ⟨(sameCache_outside changes before.world).capacity, rfl⟩
  | started number request fresh held => exact .inl ⟨rfl, rfl⟩
  | looked number session delay agenda fresh scheduled present => exact .inl ⟨by simp, rfl⟩
  | lost number session delay agenda scheduled dropped alone =>
      exact .inl ⟨by simp [withWorld], rfl⟩
  | advanced move earlier later task stage split takes =>
      have running := mem_of_eq_append split
      cases takes with
      | notice news =>
          have other : task.point.isBinding = false := by
            generalize task.point = point at news
            cases point with
            | assigning instanceId announce => cases news
            | _ => rfl
          have capacity : (task.point.notice before.world).world.node.capacity =
              before.world.node.capacity :=
            (task.point.through_notice before.world).capacity_eq fun _ => id
          exact .inl ⟨capacity,
            lastAssigned?_of_unassigned (altering.unassigned running other) earlier later _⟩
      | resume ready =>
          cases binds : task.point.isBinding with
          | false =>
              exact .inl ⟨task.point.capacity_resume binds before.world,
                lastAssigned?_of_unassigned (altering.unassigned running binds) earlier later _⟩
          | true =>
              right
              rcases Point.assigning_of_isBinding binds with ⟨instanceId, announce, stands⟩
              have asked : task.request = .assign instanceId announce :=
                altering.request running (by rw [stands]; rfl)
              refine ⟨task, instanceId, announce, running, rfl, asked, ?_, ?_⟩
              · rw [stands]
                exact Point.capacity_assign instanceId announce before.world
              · rw [lastAssigned?_replace, asked, stands]
                rfl

/-- The binding at any time is told by the reports. -/
def BoundAs (initial : Capacity) (execution : Execution) : Prop :=
  execution.world.node.capacity = execution.lastAssigned?.elim initial initial.bind

theorem BoundAs.step {initial : Capacity} (bound : before.BoundAs initial)
    (altering : before.Altering) (step : before.Step move after) : after.BoundAs initial := by
  rcases step.capacity altering with
    ⟨capacity, last⟩ | ⟨_, instanceId, _, _, _, _, capacity, last⟩
  · rw [BoundAs, capacity, last]
    exact bound
  · rw [BoundAs, capacity, last, bound]
    cases before.lastAssigned? with
    | none => rfl
    | some earlier => exact Capacity.bind_bind initial earlier instanceId

theorem BoundAs.capacity {initial : Capacity} (bound : execution.BoundAs initial) :
    execution.world.node.capacity.spotRequest? = initial.spotRequest? ∧
      execution.world.node.capacity.bound? = execution.lastAssigned?.or initial.bound? := by
  rw [bound]
  cases execution.lastAssigned? <;> simp

/-! ## The definition in force -/

/-- The flag of the connection is that of the definition in force. -/
def FlagAgrees (execution : Execution) : Prop :=
  execution.world.node.longLived = execution.world.node.definition.longLivedAgent

theorem FlagAgrees.step (agrees : before.FlagAgrees) (step : before.Step move after) :
    after.FlagAgrees := by
  rcases step.rules with same | ⟨_, definition, _, _, _, _, replaced⟩
  · simp only [Node.rules, Prod.mk.injEq] at same
    rw [FlagAgrees, same.1, same.2]
    exact agrees
  · simp only [Node.rules, Node.redefine, Prod.mk.injEq] at replaced
    rw [FlagAgrees, replaced.1, replaced.2]

/-- What carries the law along a run that begins with some capacity. -/
structure Coherent (initial : Capacity) (execution : Execution) : Prop where
  altering : execution.Altering
  bound : execution.BoundAs initial
  agrees : execution.FlagAgrees

theorem Coherent.step {initial : Capacity} (coherent : before.Coherent initial)
    (step : before.Step move after) : after.Coherent initial :=
  ⟨coherent.altering.step step, coherent.bound.step coherent.altering step,
    coherent.agrees.step step⟩

/-- A node that is bound to an instance stays bound, be it to another. -/
theorem bound_run (sound : execution.Sound) (altering : execution.Altering)
    (bound : execution.world.node.capacity.bound? ≠ none) (moves : List Move) :
    (execution.run moves).world.node.capacity.bound? ≠ none := by
  refine (sound.run_induction (fun _ => True)
    (fun now => now.Altering ∧ now.world.node.capacity.bound? ≠ none) ?_ ⟨altering, bound⟩ moves
    fun _ _ => trivial).2
  rintro before after move - - step ⟨altering, bound⟩
  refine ⟨altering.step step, ?_⟩
  rcases step.capacity altering with ⟨capacity, _⟩ | ⟨_, instanceId, _, _, _, _, capacity, _⟩
  · rw [capacity]
    exact bound
  · rw [capacity, Capacity.bound?_bind]
    nofun

/-- A reconfiguration leaves the binding alone in each of its steps. -/
theorem capacity_of_reconfigure (orderly : execution.Orderly) (altering : execution.Altering)
    (running : task ∈ execution.running) {definition : Definition}
    (asked : task.request = .reconfigure definition) :
    (execution.apply (.resume task.number)).world.node.capacity =
      execution.world.node.capacity := by
  rcases (step_apply orderly (.resume task.number)).capacity altering with
    ⟨capacity, _⟩ | ⟨other, _, _, others, same, assigns, _⟩
  · exact capacity
  · have found := task?_of_mem orderly others
    rw [← Move.resume.inj same, task?_of_mem orderly running] at found
    cases found
    cases asked.symm.trans assigns

/-- The step that replaces the definition takes the binding over. -/
theorem redefined (orderly : execution.Orderly) (altering : execution.Altering)
    {definition : Definition} (replaces : execution.replacement? move = some definition) :
    (∃ task, task ∈ execution.running ∧ task.request = .reconfigure definition ∧
      move = .resume task.number) ∧
    (execution.apply move).world.node.definition =
      { definition with capacity := some execution.world.node.capacity } := by
  cases move with
  | resume number =>
      simp only [replacement?] at replaces
      split at replaces
      · rename_i task found
        rcases split_of_task? found with ⟨rfl, earlier, later, split⟩
        have running := mem_of_eq_append split
        split at replaces
        · rename_i ready
          have stands : task.point = .reconfiguring definition .rebinding := by
            generalize task.point = point at replaces
            unfold Point.replacement? at replaces
            split at replaces
            · cases replaces
              rfl
            · cases replaces
          have asked : task.request = .reconfigure definition :=
            altering.request running (by rw [stands]; rfl)
          refine ⟨⟨task, running, asked, rfl⟩, ?_⟩
          have rules : (task.point.resume execution.world).world.node.rules =
              (execution.world.node.redefine definition).rules := by
            rw [stands, Point.resume, Stage.rules_andThen fun _ _ => rfl]
            exact ReconfigurePoint.rules_rebinding definition execution.world
          rw [(resume_of_mem orderly running ready).1]
          exact congrArg Prod.fst rules
        · cases replaces
      · cases replaces
  | _ => cases replaces

end Execution

namespace Outset

theorem coherent_run (outset : Outset) (moves : List Move) :
    (outset.execution.run moves).Coherent outset.definition.initialCapacity := by
  refine outset.sound_execution.run_induction (fun _ => True) (Execution.Coherent _) ?_ ?_ moves
    fun _ _ => trivial
  · intro before after move sound _ step coherent
    exact coherent.step step
  · refine ⟨?_, rfl, rfl⟩
    intro task running
    cases running

/-- **The facts about the binding agree all through the life of a node.** It keeps its capacity
model. It is bound to the instance that was assigned last, and before the first assignment to the
one that its first definition gives, or that its name spells if it is on demand. Once bound it stays
bound. A reconfiguration leaves the binding alone in all its steps, and if it puts its definition in
the place of the old one, it notes the binding there instead of what the definition says. The flag
of the connection is always that of the definition in force. -/
theorem binding_is_coherent (outset : Outset) (moves : List Move) :
    let now := outset.execution.run moves
    now.world.node.capacity.spotRequest? = outset.definition.capacity.bind Capacity.spotRequest? ∧
    now.world.node.capacity.bound? = now.lastAssigned?.or outset.definition.firstInstance? ∧
    now.world.node.longLived = now.world.node.definition.longLivedAgent ∧
    (now.world.node.capacity.bound? ≠ none → ∀ later,
      (now.run later).world.node.capacity.bound? ≠ none) ∧
    (∀ task definition, task ∈ now.running → task.request = .reconfigure definition →
      (now.apply (.resume task.number)).world.node.capacity = now.world.node.capacity) ∧
    ∀ move,
      (now.replacement? move = none →
        (now.apply move).world.node.definition = now.world.node.definition) ∧
      ∀ definition, now.replacement? move = some definition →
        (∃ task, task ∈ now.running ∧ task.request = .reconfigure definition ∧
          move = .resume task.number) ∧
        (now.apply move).world.node.definition =
          { definition with capacity := some now.world.node.capacity } := by
  intro now
  have sound : now.Sound := outset.sound_run moves
  have coherent : now.Coherent outset.definition.initialCapacity := outset.coherent_run moves
  have first := outset.definition.initialCapacity_eq
  have capacity := coherent.bound.capacity
  rw [first.1, first.2] at capacity
  refine ⟨capacity.1, capacity.2, coherent.agrees, ?_, ?_, ?_⟩
  · exact Execution.bound_run sound coherent.altering
  · intro task definition running asked
    exact Execution.capacity_of_reconfigure sound.orderly coherent.altering running asked
  · intro move
    refine ⟨?_, ?_⟩
    · intro stays
      exact congrArg Prod.fst (Execution.rules_apply sound.orderly stays)
    · intro definition replaces
      exact Execution.redefined sound.orderly coherent.altering replaces

def someSpotRequest : SpotRequestId :=
  ⟨['0', '8', 'b', '9', '3', '4', '5', '6'], by decide⟩

/-- A node on a spot instance whose request is not fulfilled. Its name spells an instance, which
does not count. -/
def spotted : Outset :=
  { plain with
    definition := { name := "i-01234567", capacity := some (.spot someSpotRequest none) } }

/-- A definition of another capacity model. -/
def onDemandInstead : Definition :=
  { name := "other", capacity := some (.onDemand none), longLivedAgent := true }

/-- The request is fulfilled, and a reconfiguration is about to replace the definition. -/
def fulfilled : List Move :=
  [.start 0 (.assign someInstance true), .resume 0, .start 1 (.reconfigure onDemandInstead),
    .resume 1]

/-- The new definition is put in place, but the capacity that it asks for is not. -/
theorem binding_is_coherent_spotted :
    let now := spotted.execution.run fulfilled
    now.world.node.capacity.bound? = some someInstance ∧
      (now.apply (.resume 1)).world.node.capacity = now.world.node.capacity ∧
      (now.apply (.resume 1)).world.node.definition =
        { onDemandInstead with capacity := some (.spot someSpotRequest (some someInstance)) } ∧
      (now.run [.resume 1, .start 2 .terminate]).world.node.capacity.bound? ≠ none := by
  intro now
  rcases spotted.binding_is_coherent fulfilled with
    ⟨_, bound, _, stays, reconfigures, redefines⟩
  have bound_now : now.world.node.capacity.bound? = some someInstance := bound.trans rfl
  refine ⟨bound_now, ?_, ?_, ?_⟩
  · exact reconfigures ⟨1, .reconfigure onDemandInstead, .reconfiguring onDemandInstead .rebinding⟩
      onDemandInstead (.head _) rfl
  · exact ((redefines (.resume 1)).2 onDemandInstead rfl).2
  · exact stays (by rw [bound_now]; nofun) _

end Outset

end BuildAgent
