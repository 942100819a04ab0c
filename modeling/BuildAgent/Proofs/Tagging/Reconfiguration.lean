import BuildAgent.Proofs.Execution.Outside
import BuildAgent.Proofs.Tagging.Synchronization

/-!
# A reconfiguration, part by part

A reconfiguration clears the tags of the old definition, replaces the definition and pushes the tags
of the new one. Each of the two changes of tags is the one that the node makes when it is asked for
it alone: `Execution.trial_reconfigure` says that a reconfiguration under a pattern of failures is a
call to clear, a replacement, and a call to push under the failures that the first call has left. So
everything about the two changes that `SyncPoint.Comes` says holds inside a reconfiguration too.
-/

namespace BuildAgent

namespace Execution

/-- Whether a call about tags can be made that has to wait for nobody. -/
structure Accessible (execution : Execution) : Prop where
  orderly : execution.Orderly
  held : execution.world.node.held = true
  definitionFree : execution.isFree .definition = true
  cacheFree : execution.isFree .cache = true

theorem Accessible.withWorld {execution : Execution} (accessible : execution.Accessible)
    {change : World → World} (held : (change execution.world).node.held = true) :
    (execution.withWorld change).Accessible :=
  ⟨⟨accessible.orderly.apart, accessible.orderly.numbered⟩, held, accessible.definitionFree,
    accessible.cacheFree⟩

theorem Accessible.called {execution : Execution} (accessible : execution.Accessible)
    (request : Request) (answer : Answer) {after : World} (held : after.node.held = true) :
    (execution.called request answer after).Accessible := by
  refine ⟨⟨accessible.orderly.apart, ?_⟩, held, accessible.definitionFree, accessible.cacheFree⟩
  intro task running
  exact Nat.lt_succ_of_lt (accessible.orderly.numbered task running)

end Execution

namespace SyncPoint

variable {change : TagChange} {tags : List Tag} {world after : World}
  {failures : List Provider.Injection} {result : Except Refusal TagOutcome}

theorem node_effect : (effect change tags world).node = world.node := by
  simp only [effect]
  split <;> rfl

/-- A change of tags leaves the node as it is. -/
theorem Comes.node_eq (comes : Comes change tags failures world result after) :
    after.node = world.node := by
  cases comes with
  | unhindered alike => exact (World.node_of_unrecorded alike).trans node_effect
  | hindered among hinders alike => exact World.node_of_unrecorded alike

end SyncPoint

/-! ## The parts of the procedure -/

namespace Point

variable {world middle after : World} {failures : List Provider.Injection}
  {pattern left : List (List Provider.Injection)} {result : Except Refusal TagOutcome}

theorem follow_changingTags {change : TagChange}
    (followed : Stage.follow (SyncPoint.resume change world.node.definition.tags)
      (SyncPoint.enter change world.node.definition.tags (world.fail failures)) pattern =
        (.done result after, left)) :
    Stage.follow resume (.pause (.changingTags change) world) (failures :: pattern) =
      (.done (.tagOutcome result) after, left) := by
  have part : ∀ point middle, resume (.synchronizing change world.node.definition.tags true point)
      middle = (point.resume change world.node.definition.tags middle).andThen
        (.synchronizing change world.node.definition.tags true) (finish .tagOutcome) :=
    fun _ _ => rfl
  simp only [Stage.follow, resume, World.node_fail]
  rw [Stage.follow_andThen part followed]
  exact Stage.follow_done _ _ _ _

/-- A reconfiguration goes on with what came of the clear. -/
theorem follow_reconfiguring {definition : Definition}
    (followed : Stage.follow (SyncPoint.resume .clear world.node.definition.tags)
      (SyncPoint.enter .clear world.node.definition.tags (world.fail failures)) pattern =
        (.done result after, left)) :
    Stage.follow resume (.pause (.reconfiguring definition .waiting) world) (failures :: pattern) =
      Stage.follow resume ((ReconfigurePoint.afterClear result after).andThen
        (.reconfiguring definition) (finish .reconfigured)) left := by
  let tags := world.node.definition.tags
  have part : ∀ point middle, resume (.reconfiguring definition (.clearing tags point)) middle =
      (point.resume .clear tags middle).andThen
        (fun point => .reconfiguring definition (.clearing tags point))
        fun result after => (ReconfigurePoint.afterClear result after).andThen
          (.reconfiguring definition) (finish .reconfigured) := by
    intro point middle
    simp only [resume, ReconfigurePoint.resume]
    cases point.resume .clear tags middle <;> rfl
  have begun : resume (.reconfiguring definition .waiting) (world.fail failures) =
      (SyncPoint.enter .clear tags (world.fail failures)).andThen
        (fun point => .reconfiguring definition (.clearing tags point))
        fun result after => (ReconfigurePoint.afterClear result after).andThen
          (.reconfiguring definition) (finish .reconfigured) := by
    simp only [resume, ReconfigurePoint.resume, World.node_fail]
    cases SyncPoint.enter .clear tags (world.fail failures) <;> rfl
  simp only [Stage.follow]
  rw [begun]
  exact Stage.follow_andThen part followed

/-- Once the definition is replaced, a reconfiguration ends with what came of the push. -/
theorem follow_rebinding {definition : Definition}
    (followed : Stage.follow (SyncPoint.resume .push definition.tags)
      (SyncPoint.enter .push definition.tags
        (ReconfigurePoint.replace definition (world.fail failures))) pattern =
          (.done result after, left)) :
    Stage.follow resume (.pause (.reconfiguring definition .rebinding) world)
        (failures :: pattern) =
      Stage.follow resume ((ReconfigurePoint.afterPush result after).andThen
        (.reconfiguring definition) (finish .reconfigured)) left := by
  have part : ∀ point middle,
      resume (.reconfiguring definition (.pushing definition.tags point)) middle =
        (point.resume .push definition.tags middle).andThen
          (fun point => .reconfiguring definition (.pushing definition.tags point))
          fun result after => (ReconfigurePoint.afterPush result after).andThen
            (.reconfiguring definition) (finish .reconfigured) := by
    intro point middle
    simp only [resume, ReconfigurePoint.resume]
    cases point.resume .push definition.tags middle <;> rfl
  have begun : resume (.reconfiguring definition .rebinding) (world.fail failures) =
      (SyncPoint.enter .push definition.tags
        (ReconfigurePoint.replace definition (world.fail failures))).andThen
          (fun point => .reconfiguring definition (.pushing definition.tags point))
          fun result after => (ReconfigurePoint.afterPush result after).andThen
            (.reconfiguring definition) (finish .reconfigured) := by
    simp only [resume, ReconfigurePoint.resume]
    cases SyncPoint.enter .push definition.tags
      (ReconfigurePoint.replace definition (world.fail failures)) <;> rfl
  simp only [Stage.follow]
  rw [begun]
  exact Stage.follow_andThen part followed

end Point

/-! ## Changes of tags, with the failures they meet -/

/-- What comes of a change of tags under a pattern of failures. -/
structure World.Synchronizes (world : World) (change : TagChange) (tags : List Tag)
    (failures : List Provider.Injection) (pattern : List (List Provider.Injection))
    (result : Except Refusal TagOutcome) (after : World)
    (left : List (List Provider.Injection)) : Prop where
  followed : Stage.follow (SyncPoint.resume change tags)
    (SyncPoint.enter change tags (world.fail failures)) pattern = (.done result after, left)
  comes : SyncPoint.Comes change tags (world.threats (failures :: pattern)) world result after
  threats : after.threats left ⊆ world.threats (failures :: pattern)
  spent : pattern.length ≤ left.length + 3

theorem World.exists_synchronizes (world : World) (change : TagChange) (tags : List Tag)
    (failures : List Provider.Injection) {pattern : List (List Provider.Injection)}
    (enough : 3 ≤ pattern.length) :
    ∃ result after left, world.Synchronizes change tags failures pattern result after left := by
  rcases SyncPoint.ends_enter change tags (world.fail failures) enough with
    ⟨result, after, left, followed, comes, threats, spent⟩
  rw [World.threats_of_fail] at comes threats
  have alike : (world.fail failures).unrecorded = world.unrecorded := rfl
  exact ⟨result, after, left, followed, comes.of_alike alike (List.Subset.refl _), threats, spent⟩

/-- A change of tags comes to the same, whatever the journal holds. -/
theorem SyncPoint.follow_of_bare {change : TagChange} {tags : List Tag} {world other after : World}
    {pattern left : List (List Provider.Injection)} {result : Except Refusal TagOutcome}
    (followed : Stage.follow (resume change tags) (enter change tags world) pattern =
      (.done result after, left)) (same : other.bare = world.bare) :
    ∃ ended, ended.bare = after.bare ∧
      Stage.follow (resume change tags) (enter change tags other) pattern =
        (.done result ended, left) := by
  have apart : ∀ world : World,
      Stage.follow (resume change tags) (enter change tags world) pattern =
      ((Stage.follow (resume change tags) (enter change tags world.bare) pattern).1.withPast
        world.journal,
      (Stage.follow (resume change tags) (enter change tags world.bare) pattern).2) := by
    intro world
    rw [← Stage.follow_withPast world.journal
      (fun point middle => resume_withPast middle world.journal change tags point),
      ← enter_withPast, World.withPast_bare]
  rw [apart other, same]
  rw [apart world, Prod.mk.injEq] at followed
  rcases followed with ⟨stage_eq, rfl⟩
  rcases stage : (Stage.follow (resume change tags) (enter change tags world.bare) pattern).1 with
    ⟨point, middle⟩ | ⟨reached, middle⟩
  · rw [stage] at stage_eq
    cases stage_eq
  · rw [stage] at stage_eq
    cases stage_eq
    exact ⟨middle.withPast other.journal, rfl, rfl⟩

/-- What a reconfiguration answers once it has pushed. -/
def ReconfigurePoint.settled : Except Refusal TagOutcome → Except Refusal Unit
  | .ok _ => .ok ()
  | .error refusal => if refusal.isMissingInstance then .ok () else .error refusal

/-- Whether a reconfiguration goes on after what came of its clear. -/
def ReconfigurePoint.Passes (cleared : Except Refusal TagOutcome) : Prop :=
  ∀ refusal, cleared = .error refusal → refusal.isMissingInstance = true

namespace ReconfigurePoint

theorem afterClear_of_passes {cleared : Except Refusal TagOutcome} (passes : Passes cleared)
    (world : World) :
    ∃ middle, middle.bare = world.bare ∧ afterClear cleared world = .pause .rebinding middle := by
  cases cleared with
  | ok outcome => exact ⟨world, rfl, rfl⟩
  | error refusal =>
      refine ⟨world.note (.noTagsToClear refusal), rfl, ?_⟩
      simp only [afterClear, passes refusal rfl, if_true]

theorem afterPush_eq (pushed : Except Refusal TagOutcome) (world : World) :
    ∃ after, after.bare = world.bare ∧ afterPush pushed world = .done (settled pushed) after := by
  cases pushed with
  | ok outcome => exact ⟨world, rfl, rfl⟩
  | error refusal =>
      by_cases missing : refusal.isMissingInstance = true
      · refine ⟨world.note (.tagsNotPushed refusal), rfl, ?_⟩
        simp only [afterPush, settled, missing, if_true]
      · refine ⟨world, rfl, ?_⟩
        simp only [afterPush, settled, if_neg missing]

end ReconfigurePoint

namespace Execution

variable {execution : Execution} {change : TagChange} {tags : List Tag} {definition : Definition}
  {failures more : List Provider.Injection} {pattern left rest : List (List Provider.Injection)}
  {result cleared pushed : Except Refusal TagOutcome} {middle after : World}

/-- A call that changes the tags of the definition comes to what the change comes to. -/
theorem trial_changeTags (accessible : execution.Accessible)
    (synchronizes : execution.world.Synchronizes change execution.world.node.definition.tags
      failures pattern result after left) :
    execution.trial (.changeTags change) (failures :: pattern) =
      ⟨some (.tagOutcome result),
        execution.called (.changeTags change) (.tagOutcome result) after, left⟩ :=
  trial_eq accessible.orderly accessible.held accessible.definitionFree accessible.cacheFree rfl
    (Point.follow_changingTags synchronizes.followed)

/-- A reconfiguration whose clear fails ends there, with the failure. -/
theorem trial_reconfigure_of_hindered (accessible : execution.Accessible)
    {failure : Provider.Failure}
    (clears : execution.world.Synchronizes .clear execution.world.node.definition.tags failures
      pattern (.error (.provider failure)) after left) :
    execution.trial (.reconfigure definition) (failures :: pattern) =
      ⟨some (.reconfigured (.error (.provider failure))),
        execution.called (.reconfigure definition) (.reconfigured (.error (.provider failure)))
          after, left⟩ := by
  have followed : Stage.follow Point.resume (.pause (.reconfiguring definition .waiting)
      execution.world) (failures :: pattern) =
        (.done (.reconfigured (.error (.provider failure))) after, left) := by
    rw [Point.follow_reconfiguring clears.followed]
    exact Stage.follow_done _ _ _ _
  exact trial_eq accessible.orderly accessible.held accessible.definitionFree accessible.cacheFree
    rfl followed

/-- A reconfiguration whose clear passes replaces the definition and pushes. -/
theorem trial_reconfigure_of_passes (accessible : execution.Accessible)
    (clears : execution.world.Synchronizes .clear execution.world.node.definition.tags failures
      pattern cleared middle (more :: left)) (passes : ReconfigurePoint.Passes cleared)
    (pushes : (ReconfigurePoint.replace definition middle).Synchronizes .push definition.tags more
      left pushed after rest) :
    ∃ ended, ended.bare = after.bare ∧
      execution.trial (.reconfigure definition) (failures :: pattern) =
        ⟨some (.reconfigured (ReconfigurePoint.settled pushed)),
          execution.called (.reconfigure definition)
            (.reconfigured (ReconfigurePoint.settled pushed)) ended, rest⟩ := by
  rcases ReconfigurePoint.afterClear_of_passes passes middle with ⟨noted, same, goes⟩
  -- The note that there was nothing to clear is all that the push does not start from.
  have alike : (ReconfigurePoint.replace definition (noted.fail more)).bare =
      ((ReconfigurePoint.replace definition middle).fail more).bare := by
    have replaced : ∀ world : World, (ReconfigurePoint.replace definition (world.fail more)).bare =
        (ReconfigurePoint.replace definition (world.bare.fail more)).bare := fun _ => rfl
    rw [replaced, same]
    rfl
  rcases SyncPoint.follow_of_bare pushes.followed alike with ⟨reached, reached_same, followed⟩
  rcases ReconfigurePoint.afterPush_eq pushed reached with ⟨ended, ended_same, ends⟩
  refine ⟨ended, ended_same.trans reached_same, ?_⟩
  have whole : Stage.follow Point.resume (.pause (.reconfiguring definition .waiting)
      execution.world) (failures :: pattern) =
        (.done (.reconfigured (ReconfigurePoint.settled pushed)) ended, rest) := by
    rw [Point.follow_reconfiguring clears.followed, goes, Stage.andThen_pause,
      Point.follow_rebinding followed, ends]
    exact Stage.follow_done _ _ _ _
  exact trial_eq accessible.orderly accessible.held accessible.definitionFree accessible.cacheFree
    rfl whole

end Execution

end BuildAgent
