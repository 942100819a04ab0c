import BuildAgent.Proofs.Tagging.Redefinition
import BuildAgent.Proofs.Task.Calls

/-!
# The tags that are sent are those of the definition

A change of the definition's tags reads them when it has got the definition lock, and a
reconfiguration reads the old ones then and has the new ones from the step that puts the new
definition in place. From then on each of them holds the lock, so nobody else replaces the
definition before it has ended (`Execution.UpToDate.apply`). So whatever a call of either sends to
the provider are the tags that the definition has at that moment, and no call sends the tags of a
definition that has been replaced (`Point.ActsOn.tags_eq`).
-/

namespace BuildAgent

/-- Whether an operation changes the tags of an instance. -/
def Provider.Operation.changesTags : Provider.Operation → Bool
  | createTags => true
  | deleteTags => true
  | _ => false

namespace SyncPoint

/-- A batch that is about to be sent is made of the tags as a whole. -/
def Sends (tags : List Tag) : SyncPoint → Prop
  | submitting _ batch => batch = Tag.batch tags
  | _ => True

theorem sends_of_resume {change : TagChange} {tags : List Tag} {point next : SyncPoint}
    {world after : World} (paused : point.resume change tags world = .pause next after) :
    next.Sends tags := by
  cases point with
  | entering =>
      simp only [resume, enter] at paused
      split at paused
      · cases paused
      · cases paused
        trivial
  | looking inner =>
      rcases Stage.andThen_eq_pause paused with ⟨later, _, rfl⟩ | ⟨found, middle, _, ended⟩
      · trivial
      · split at ended
        · cases ended
        · cases ended
          trivial
        · cases ended
          rfl
  | identifying => cases paused
  | submitting instanceId batch =>
      simp only [resume] at paused
      split at paused <;> cases paused

end SyncPoint

theorem Node.tags_of_rules {node other : Node} (same : node.rules = other.rules) :
    node.definition.tags = other.definition.tags :=
  congrArg (fun rules => rules.1.tags) same

namespace ReconfigurePoint

/-- What a reconfiguration sends between two steps is made of given tags. -/
def ActsOn (tags : List Tag) : ReconfigurePoint → Prop
  | clearing own inner => own = tags ∧ inner.Sends own
  | pushing own inner => own = tags ∧ inner.Sends own
  | _ => True

theorem actsOn_of_resume {definition : Definition} {point next : ReconfigurePoint}
    {world after : World} (acts : point.ActsOn world.node.definition.tags)
    (paused : point.resume definition world = .pause next after) :
    next.ActsOn after.node.definition.tags := by
  have kept : point ≠ .rebinding → after.node.definition.tags = world.node.definition.tags := by
    intro elsewhere
    have moved := point.rules_resume definition world
    rw [paused] at moved
    exact Node.tags_of_rules (moved.resolve_right fun replaced => elsewhere replaced.1)
  cases point with
  | waiting =>
      have same := kept (by simp)
      rcases Stage.andThen_eq_pause paused with ⟨later, begun, rfl⟩ | ⟨_, _, _, ended⟩
      · have entered : SyncPoint.entering.resume .clear _ world = .pause later after := begun
        exact ⟨same.symm, SyncPoint.sends_of_resume entered⟩
      · rw [eq_rebinding_of_afterClear ended]
        trivial
  | clearing tags inner =>
      have same := kept (by simp)
      rcases Stage.andThen_eq_pause paused with ⟨later, begun, rfl⟩ | ⟨_, _, _, ended⟩
      · exact ⟨acts.1.trans same.symm, SyncPoint.sends_of_resume begun⟩
      · rw [eq_rebinding_of_afterClear ended]
        trivial
  | rebinding =>
      rcases Stage.andThen_eq_pause paused with ⟨later, begun, rfl⟩ | ⟨_, _, _, ended⟩
      · have entered : SyncPoint.entering.resume .push definition.tags (replace definition world) =
            .pause later after := begun
        have still := (SyncPoint.through_enter .push definition.tags
          (replace definition world)).rules_eq fun _ => id
        rw [begun] at still
        exact ⟨(Node.tags_of_rules still).symm, SyncPoint.sends_of_resume entered⟩
      · exact absurd ended afterPush_ne_pause
  | pushing tags inner =>
      have same := kept (by simp)
      rcases Stage.andThen_eq_pause paused with ⟨later, begun, rfl⟩ | ⟨_, _, _, ended⟩
      · exact ⟨acts.1.trans same.symm, SyncPoint.sends_of_resume begun⟩
      · exact absurd ended afterPush_ne_pause

end ReconfigurePoint

namespace Point

/-- What a task sends between two steps, if it changes the tags of the definition, is made of given
tags. -/
def ActsOn (tags : List Tag) : Point → Prop
  | synchronizing _ own locked inner => locked = true ∧ own = tags ∧ inner.Sends own
  | reconfiguring _ inner => inner.ActsOn tags
  | _ => True

variable {point next : Point} {tags : List Tag} {world after : World}

theorem rules_of_replaces_none (none_replaces : point.replacement? = none) (world : World) :
    (point.resume world).world.node.rules = world.node.rules := by
  rcases point.rules_resume world with same | ⟨definition, replaces, _⟩
  · exact same
  · rw [none_replaces] at replaces
    cases replaces

theorem holds_of_replacement? {definition : Definition}
    (replaces : point.replacement? = some definition) : point.holds .definition = true := by
  cases point with
  | reconfiguring own inner =>
      cases inner with
      | rebinding => rfl
      | _ => cases replaces
  | _ => cases replaces

theorem actsOn_of_isEntrance (entrance : next.isEntrance = true) : next.ActsOn tags := by
  cases next with
  | synchronizing change own locked inner => cases entrance
  | reconfiguring definition inner => cases entrance
  | _ => trivial

theorem actsOn_of_resume (acts : point.ActsOn world.node.definition.tags)
    (paused : point.resume world = .pause next after) :
    next.ActsOn after.node.definition.tags := by
  have kept : point.replacement? = none →
      after.node.definition.tags = world.node.definition.tags := by
    intro none_replaces
    have same := rules_of_replaces_none none_replaces world
    rw [paused] at same
    exact Node.tags_of_rules same
  cases point with
  | changingTags change =>
      rcases Stage.pause_of_andThen_done paused with ⟨later, begun, rfl⟩
      have entered : SyncPoint.entering.resume change _ world = .pause later after := begun
      exact ⟨rfl, (kept rfl).symm, SyncPoint.sends_of_resume entered⟩
  | synchronizing change own locked inner =>
      rcases Stage.pause_of_andThen_done paused with ⟨later, begun, rfl⟩
      exact ⟨acts.1, acts.2.1.trans (kept rfl).symm, SyncPoint.sends_of_resume begun⟩
  | reconfiguring definition inner =>
      rcases Stage.pause_of_andThen_done paused with ⟨later, begun, rfl⟩
      exact ReconfigurePoint.actsOn_of_resume acts begun
  | _ =>
      cases leads_of_resume paused with
      | elsewhere entrance => exact actsOn_of_isEntrance entrance
      | _ => trivial

/-- Without the definition lock a task has no tags of the definition to act on. -/
theorem ActsOn.of_free {other : List Tag} (acts : point.ActsOn tags)
    (free : point.holds .definition = false) : point.ActsOn other := by
  cases point with
  | synchronizing change own locked inner =>
      rw [show locked = false from free] at acts
      cases acts.1
  | reconfiguring definition inner =>
      cases inner with
      | waiting => trivial
      | _ => cases free
  | _ => trivial

/-- A call that changes tags sends those that its task acts on. -/
theorem ActsOn.tags_eq {call : Provider.Call} (acts : point.ActsOn tags)
    (calls : point.call? = some call)
    (changes : call.operation.changesTags = true) : call.tags = Tag.batch tags := by
  cases makes_of_call? calls with
  | synchronizing change own locked instanceId batch =>
      rw [← acts.2.1]
      exact acts.2.2
  | clearing definition own instanceId batch =>
      rw [← acts.1]
      exact acts.2
  | pushing definition own instanceId batch =>
      rw [← acts.1]
      exact acts.2
  | _ => cases changes

end Point

namespace Execution

variable {execution before after : Execution} {move : Move} {task : Task}

/-- Whoever changes the tags of the definition acts on those that it has. A synchronization with
tags of its own is no such task. -/
def UpToDate (execution : Execution) : Prop :=
  ∀ task, task ∈ execution.running →
    (∀ change tags, task.request ≠ .synchronize change tags) →
    task.point.ActsOn execution.world.node.definition.tags

theorem Silent.rules_eq (silent : before.Silent move after) :
    after.world.node.rules = before.world.node.rules := by
  cases silent with
  | idle move => rfl
  | outside move change changes => exact rules_outside changes before.world
  | started number request fresh held => rfl
  | looked number session delay agenda fresh scheduled present =>
      exact congrArg Node.rules (before.world.frame_withAgenda delay agenda).1
  | lost number session delay agenda scheduled dropped alone =>
      exact congrArg Node.rules (before.world.frame_withAgenda delay agenda).1
  | noticed earlier later task split news => exact task.point.rules_notice before.world

namespace UpToDate

theorem of_silent (current : before.UpToDate) (silent : before.Silent move after) :
    after.UpToDate := by
  intro task running own
  rw [Node.tags_of_rules silent.rules_eq]
  rcases silent.mem_running running with old | ⟨stands, _⟩ | ⟨_, _, _, _, _, _, stands⟩
  · exact current task old own
  · rw [stands]
    cases asked : task.request with
    | synchronize change tags => exact absurd asked (own change tags)
    | _ => trivial
  · rw [stands]
    trivial

theorem apply (current : before.UpToDate) (orderly : before.Orderly) (move : Move) :
    (before.apply move).UpToDate := by
  rcases acts_or_silent orderly move with
    ⟨task, earlier, later, acts, split, takes, moved⟩ | ⟨still, silent⟩
  · rw [moved]
    intro other running own
    rcases mem_replace.mp running with left | still
    · rcases mem_remaining left with ⟨next, world, paused, rfl⟩
      have acting := current task (mem_of_eq_append split) own
      rw [paused]
      exact Point.actsOn_of_resume acting paused
    · have acting := current other (mem_of_split split still) own
      rcases task.point.rules_resume before.world with same | ⟨definition, replaces, _⟩
      · rw [show (before.replace _ _ _ _).world.node.definition.tags = _ from
          Node.tags_of_rules same]
        exact acting
      · refine acting.of_free ((orderly.excludes split still).lock .definition ?_)
        exact Point.holds_of_replacement? replaces
  · exact current.of_silent silent

theorem run (current : before.UpToDate) (orderly : before.Orderly) (moves : List Move) :
    (before.run moves).UpToDate := by
  induction moves generalizing before with
  | nil => exact current
  | cons move moves hypothesis =>
      exact hypothesis (current.apply orderly move) (orderly.step (step_apply orderly move))

end UpToDate

end Execution

/-- **No call sends the tags of a definition that has been replaced.** Whatever a task sends to
change the tags of the instance are the tags that the definition has at that moment, unless the task
is a synchronization with tags of its own. -/
theorem Outset.tags_of_call? (outset : Outset) (moves : List Move) {task : Task} {move : Move}
    {call : Provider.Call} (acts : (outset.execution.run moves).acting? move = some task)
    (own : ∀ change tags, task.request ≠ .synchronize change tags)
    (calls : task.point.call? = some call) (changes : call.operation.changesTags = true) :
    call.tags = Tag.batch (outset.execution.run moves).world.node.definition.tags := by
  have nobody : outset.execution.UpToDate := by
    intro task running
    cases running
  rcases Execution.acting?_eq_some acts with ⟨_, _, earlier, later, split⟩
  have current := nobody.run outset.orderly_execution moves
  exact (current task (Execution.mem_of_eq_append split) own).tags_eq calls changes

end BuildAgent
