import BuildAgent.Proofs.Tagging.Reconfiguration
import BuildAgent.Proofs.Tagging.Redefinition

/-!
# A reconfiguration is made or not made

A reconfiguration that nothing interrupts but failures of the provider ends in one of three ways
(`ReconfigurePoint.Comes`): its clear failed and nothing has changed, its push failed and all but
the push is done, or it is complete. Where it leads is fixed by the world that it starts from
(`World.reconfigured`), so a call that failed can be made up for: by the same call where nothing has
changed, by a push where the definition is replaced (`Outset.reconfigure_all_or_nothing`).
-/

namespace BuildAgent

namespace World

/-- The world once the old tags are cleared and the definition is replaced. -/
def redefined (definition : Definition) (world : World) : World :=
  ReconfigurePoint.replace definition
    (SyncPoint.effect .clear world.node.definition.tags world)

/-- The world after a complete reconfiguration. -/
def reconfigured (definition : Definition) (world : World) : World :=
  SyncPoint.effect .push definition.tags (world.redefined definition)

section Alike

variable {world other : World} (alike : world.unrecorded = other.unrecorded)
  (definition : Definition)

include alike

theorem replace_of_alike : (ReconfigurePoint.replace definition world).unrecorded =
    (ReconfigurePoint.replace definition other).unrecorded := by
  have moved : ∀ world : World, (ReconfigurePoint.replace definition world).unrecorded =
      (ReconfigurePoint.replace definition world.unrecorded).unrecorded := fun _ => rfl
  rw [moved world, moved other, alike]

theorem redefined_of_alike :
    (world.redefined definition).unrecorded = (other.redefined definition).unrecorded := by
  apply replace_of_alike
  rw [node_of_unrecorded alike]
  exact SyncPoint.effect_of_alike alike

theorem reconfigured_of_alike :
    (world.reconfigured definition).unrecorded = (other.reconfigured definition).unrecorded :=
  SyncPoint.effect_of_alike (redefined_of_alike alike definition)

end Alike

theorem unrecorded_of_bare {world other : World} (same : world.bare = other.bare) :
    world.unrecorded = other.unrecorded :=
  show world.bare.unrecorded = other.bare.unrecorded from congrArg unrecorded same

/-- A reconfiguration changes the definition and the flag that goes with it, and nothing else of the
node. -/
theorem node_redefined (definition : Definition) (world : World) :
    (world.redefined definition).node = world.node.redefine definition := by
  have replaced : ∀ world, (ReconfigurePoint.replace definition world).node =
      world.node.redefine definition := fun _ => rfl
  rw [redefined, replaced, SyncPoint.node_effect]

theorem node_reconfigured (definition : Definition) (world : World) :
    (world.reconfigured definition).node = world.node.redefine definition :=
  SyncPoint.node_effect.trans (node_redefined definition world)

end World

namespace ReconfigurePoint

/-- What a reconfiguration comes to that nothing interrupts but some failures. -/
inductive Comes (definition : Definition) (failures : List Provider.Injection) (world : World) :
    Except Refusal Unit → World → Prop where
  | stopped {waiting : Provider.Injection} {after : World} (among : waiting ∈ failures)
      (hinders : SyncPoint.Hinders .clear world.node.definition.tags world waiting)
      (alike : after.unrecorded = world.unrecorded) :
      Comes definition failures world (.error (.provider waiting.failure)) after
  | halfway {waiting : Provider.Injection} {after : World} (among : waiting ∈ failures)
      (hinders : SyncPoint.Hinders .push definition.tags (world.redefined definition) waiting)
      (alike : after.unrecorded = (world.redefined definition).unrecorded) :
      Comes definition failures world (.error (.provider waiting.failure)) after
  | complete {after : World}
      (alike : after.unrecorded = (world.reconfigured definition).unrecorded) :
      Comes definition failures world (.ok ()) after

theorem Comes.complete_of_ok {definition : Definition} {failures : List Provider.Injection}
    {world after : World} (comes : Comes definition failures world (.ok ()) after) :
    after.unrecorded = (world.reconfigured definition).unrecorded := by
  cases comes with
  | complete alike => exact alike

theorem settled_verdict (tags : List Tag) (world : World) :
    settled (SyncPoint.verdict tags world) = .ok () := by
  rcases given : SyncPoint.verdict tags world with refusal | outcome
  · simp only [settled, SyncPoint.isMissingInstance_of_verdict given, if_true]
  · rfl

end ReconfigurePoint

namespace Execution

variable {execution : Execution} {definition : Definition}
  {pattern : List (List Provider.Injection)}

/-- The execution without the failures that wait. -/
def calmed (execution : Execution) : Execution :=
  execution.withWorld fun world =>
    world.withProvider fun provider => { provider with failures := [] }

/-- A call in which no failure comes up. -/
def untroubled (execution : Execution) (request : Request) : Trial :=
  execution.calmed.trial request (List.replicate 8 [])

/-- The two parts of a reconfiguration as calls of their own. -/
structure Parts (execution : Execution) (definition : Definition)
    (pattern : List (List Provider.Injection)) (cleared pushed : Except Refusal TagOutcome)
    (outcome : Except Refusal Unit) (after : World) : Prop where
  clear : (execution.trial (.changeTags .clear) pattern).answer? = some (.tagOutcome cleared)
  push : (((execution.trial (.changeTags .clear) pattern).after.withWorld
    (ReconfigurePoint.replace definition)).trial (.changeTags .push)
      (execution.trial (.changeTags .clear) pattern).left).answer? = some (.tagOutcome pushed)
  call : (execution.trial (.reconfigure definition) pattern).answer? =
    some (.reconfigured outcome)
  ends : (execution.trial (.reconfigure definition) pattern).after =
    execution.called (.reconfigure definition) (.reconfigured outcome) after
  either : (∃ failure, cleared = .error (.provider failure)) ∨ ReconfigurePoint.Passes cleared
  stopped : ∀ failure, cleared = .error (.provider failure) →
    outcome = .error (.provider failure) ∧ after.unrecorded = execution.world.unrecorded
  passed : ReconfigurePoint.Passes cleared → outcome = ReconfigurePoint.settled pushed ∧
    SyncPoint.Comes .push definition.tags (execution.world.threats pattern)
      (execution.world.redefined definition) pushed after
  comes : ReconfigurePoint.Comes definition (execution.world.threats pattern) execution.world
    outcome after

theorem exists_parts (accessible : execution.Accessible) (definition : Definition)
    (enough : 8 ≤ pattern.length) :
    ∃ cleared pushed outcome after,
      execution.Parts definition pattern cleared pushed outcome after := by
  rcases pattern with _ | ⟨failures, pattern⟩
  · exact absurd enough (by simp)
  rw [List.length_cons] at enough
  have first : 3 ≤ pattern.length := by omega
  rcases execution.world.exists_synchronizes .clear execution.world.node.definition.tags failures
    first with ⟨cleared, middle, left, clears⟩
  have spent := clears.spent
  rcases left with _ | ⟨more, left⟩
  · rw [List.length_nil] at spent
    omega
  rw [List.length_cons] at spent
  have second : 3 ≤ left.length := by omega
  rcases (ReconfigurePoint.replace definition middle).exists_synchronizes .push definition.tags more
    second with ⟨pushed, reached, rest, pushes⟩
  have held : middle.node.held = true := by rw [clears.comes.node_eq, accessible.held]
  have clear := trial_changeTags accessible clears
  have replaced : ((execution.called (.changeTags .clear) (.tagOutcome cleared) middle).withWorld
      (ReconfigurePoint.replace definition)).Accessible :=
    (accessible.called _ _ held).withWorld held
  have push := trial_changeTags replaced pushes
  have among : (ReconfigurePoint.replace definition middle).threats (more :: left) ⊆
      execution.world.threats (failures :: pattern) := clears.threats
  cases clears.comes with
  | hindered waits hinders alike =>
      rename_i waiting
      have call : execution.trial (.reconfigure definition) (failures :: pattern) = _ :=
        trial_reconfigure_of_hindered accessible clears
      refine ⟨_, pushed, _, middle, by rw [clear], by rw [clear, push], by rw [call],
        by rw [call], .inl ⟨waiting.failure, rfl⟩, ?_, ?_, .stopped waits hinders alike⟩
      · rintro other same
        cases same
        exact ⟨rfl, alike⟩
      · intro passes
        exact absurd (passes _ rfl) (by simp [Refusal.isMissingInstance])
  | unhindered alike =>
      have passes : ReconfigurePoint.Passes
          (SyncPoint.verdict execution.world.node.definition.tags execution.world) :=
        fun _ => SyncPoint.isMissingInstance_of_verdict
      rcases trial_reconfigure_of_passes accessible clears passes pushes with ⟨ended, same, call⟩
      have alike_ended := World.unrecorded_of_bare same
      have alike_replaced : (ReconfigurePoint.replace definition middle).unrecorded =
          (execution.world.redefined definition).unrecorded := World.replace_of_alike alike _
      have pushes_on := (pushes.comes.of_alike alike_replaced among).of_after alike_ended
      refine ⟨_, pushed, _, ended, by rw [clear], by rw [clear, push], by rw [call],
        by rw [call], .inr passes, ?_, fun _ => ⟨rfl, pushes_on⟩, ?_⟩
      · intro failure same
        exact absurd (passes _ same) (by simp [Refusal.isMissingInstance])
      · cases pushes_on with
        | hindered waits hinders kept => exact .halfway waits hinders kept
        | unhindered done =>
            rw [ReconfigurePoint.settled_verdict]
            exact .complete done

/-- What is answered to a change of tags, and what it leaves, in one. -/
theorem exists_pushed (accessible : execution.Accessible) (change : TagChange)
    (enough : 4 ≤ pattern.length) :
    ∃ result after left, execution.trial (.changeTags change) pattern =
        ⟨some (.tagOutcome result),
          execution.called (.changeTags change) (.tagOutcome result) after, left⟩ ∧
      SyncPoint.Comes change execution.world.node.definition.tags
        (execution.world.threats pattern) execution.world result after := by
  rcases pattern with _ | ⟨failures, pattern⟩
  · exact absurd enough (by simp)
  rw [List.length_cons] at enough
  have first : 3 ≤ pattern.length := by omega
  rcases execution.world.exists_synchronizes change execution.world.node.definition.tags failures
    first with ⟨result, after, left, synchronizes⟩
  exact ⟨result, after, left, trial_changeTags accessible synchronizes, synchronizes.comes⟩

/-- Without failures a reconfiguration is complete. -/
theorem untroubled_reconfigure (accessible : execution.Accessible) (definition : Definition) :
    (execution.untroubled (.reconfigure definition)).answer? =
        some (.reconfigured (.ok ())) ∧
      (execution.untroubled (.reconfigure definition)).after.world.unrecorded =
        (execution.world.reconfigured definition).unrecorded := by
  have calm : execution.calmed.Accessible := accessible.withWorld accessible.held
  have enough : 8 ≤ (List.replicate 8 ([] : List Provider.Injection)).length := by simp
  rcases exists_parts calm definition enough with ⟨_, _, outcome, after, parts⟩
  have none_threatens : execution.calmed.world.threats (List.replicate 8 []) = [] := rfl
  have comes := parts.comes
  rw [none_threatens] at comes
  have alike : execution.calmed.world.unrecorded = execution.world.unrecorded := rfl
  simp only [untroubled, parts.call, parts.ends, called]
  cases comes with
  | stopped waits => cases waits
  | halfway waits => cases waits
  | complete done => exact ⟨rfl, done.trans (World.reconfigured_of_alike alike definition)⟩

end Execution

/-- Without an instance that the provider shows, nothing hinders a reconfiguration. -/
theorem ReconfigurePoint.Comes.ok_of_missing {definition : Definition}
    {failures : List Provider.Injection} {world after : World} {outcome : Except Refusal Unit}
    (comes : Comes definition failures world outcome after)
    (missing : ∀ instanceId, world.node.capacity.bound? = some instanceId →
      world.provider.find? instanceId = none ∧
        ∀ failure ∈ failures, failure.operation ≠ .describe) :
    outcome = .ok () := by
  cases comes with
  | stopped among hinders =>
      rcases hinders.bound with ⟨instanceId, bound, describes | ⟨_, known⟩⟩
      · exact absurd describes ((missing instanceId bound).2 _ among)
      · rw [(missing instanceId bound).1] at known
        cases known
  | halfway among hinders =>
      rcases hinders.bound with ⟨instanceId, bound, describes | ⟨_, known⟩⟩
      · rw [World.node_redefined] at bound
        exact absurd describes ((missing instanceId bound).2 _ among)
      · rw [World.node_redefined] at bound
        have absent := (missing instanceId bound).1
        have still : SyncPoint.effect .clear world.node.definition.tags world = world := by
          have stands : world.node.capacity.bound? = some instanceId := bound
          simp only [SyncPoint.effect, stands]
          exact World.retag_of_unknown .clear _ absent
        have same : (world.redefined definition).provider = world.provider := by
          rw [World.redefined, still]
          rfl
        rw [same, absent] at known
        cases known
  | complete => rfl

namespace Outset

/-- **A reconfiguration is all or nothing up to its push, and every failure can be made up for.**
In any state that can be reached, for every new definition and every pattern of failures, a
reconfiguration that nothing else interrupts is answered, and so:

1. If a call to clear the old tags fails there for want of more than an instance, the
   reconfiguration answers that failure and leaves everything but the provider's record of calls;
   made again without failures, it comes to what it would have come to without the failed call.
2. Otherwise the definition and its flag are replaced and the binding stays, and nothing that
   happens later undoes that but the replacement of another reconfiguration. If the push fails, its
   failure is the answer, and a later push that succeeds leaves the world as any reconfiguration
   would have that was answered with success.
3. A node without a live instance, one that has no identifier or whose instance the provider does
   not show when it is asked, is reconfigured all the same. -/
theorem reconfigure_all_or_nothing (outset : Outset) (moves : List Move) (definition : Definition)
    (pattern : List (List Provider.Injection))
    (held : (outset.execution.run moves).world.node.held = true)
    (definitionFree : (outset.execution.run moves).isFree .definition = true)
    (cacheFree : (outset.execution.run moves).isFree .cache = true)
    (enough : 8 ≤ pattern.length) :
    let before := outset.execution.run moves
    let clear := before.trial (.changeTags .clear) pattern
    let push := (clear.after.withWorld (ReconfigurePoint.replace definition)).trial
      (.changeTags .push) clear.left
    let call := before.trial (.reconfigure definition) pattern
    ∃ cleared pushed outcome, clear.answer? = some (.tagOutcome cleared) ∧
      push.answer? = some (.tagOutcome pushed) ∧
      call.answer? = some (.reconfigured outcome) ∧
      (∀ refusal, cleared = .error refusal → refusal.isMissingInstance = false →
        outcome = .error refusal ∧ call.after.world.unrecorded = before.world.unrecorded ∧
        (call.after.untroubled (.reconfigure definition)).answer? =
          (before.untroubled (.reconfigure definition)).answer? ∧
        (call.after.untroubled (.reconfigure definition)).after.world.unrecorded =
          (before.untroubled (.reconfigure definition)).after.world.unrecorded) ∧
      ((∀ refusal, cleared = .error refusal → refusal.isMissingInstance = true) →
        call.after.world.node = before.world.node.redefine definition ∧
        (∀ later, call.after.replacements later = [] →
          (call.after.run later).world.node.rules =
            (before.world.node.redefine definition).rules) ∧
        ∀ failure, pushed = .error (.provider failure) →
          outcome = .error (.provider failure) ∧
          ∀ later other done, 4 ≤ later.length → 8 ≤ other.length →
            (call.after.trial (.changeTags .push) later).answer? = some (.tagOutcome (.ok done)) →
            (before.trial (.reconfigure definition) other).answer? =
              some (.reconfigured (.ok ())) →
            (call.after.trial (.changeTags .push) later).after.world.unrecorded =
              (before.trial (.reconfigure definition) other).after.world.unrecorded) ∧
      ((∀ instanceId, before.world.node.capacity.bound? = some instanceId →
          before.world.provider.find? instanceId = none ∧
            ∀ failure ∈ before.world.threats pattern, failure.operation ≠ .describe) →
        outcome = .ok () ∧ call.after.world.node = before.world.node.redefine definition) := by
  intro before clear push call
  have accessible : before.Accessible :=
    ⟨(outset.sound_run moves).orderly, held, definitionFree, cacheFree⟩
  rcases Execution.exists_parts accessible definition enough with
    ⟨cleared, pushed, outcome, after, parts⟩
  have reached : call.after.world = after := congrArg Execution.world parts.ends
  have again : after.node.held = true → call.after.Accessible := by
    intro still
    rw [show call.after = _ from parts.ends]
    exact accessible.called _ _ still
  refine ⟨cleared, pushed, outcome, parts.clear, parts.push, parts.call, ?_, ?_, ?_⟩
  · intro refusal refused lasting
    rcases parts.either with ⟨failure, failed⟩ | passes
    · rcases parts.stopped failure failed with ⟨answered, alike⟩
      rw [failed] at refused
      cases refused
      have still : after.node.held = true := by rw [World.node_of_unrecorded alike, held]
      have retry := Execution.untroubled_reconfigure (again still) definition
      have direct := Execution.untroubled_reconfigure accessible definition
      refine ⟨answered, reached ▸ alike, retry.1.trans direct.1.symm, ?_⟩
      rw [retry.2, direct.2, reached]
      exact World.reconfigured_of_alike alike definition
    · rw [passes refusal refused] at lasting
      cases lasting
  · intro passes
    rcases parts.passed passes with ⟨answered, comes⟩
    have node : after.node = before.world.node.redefine definition :=
      comes.node_eq.trans (World.node_redefined definition before.world)
    have still : after.node.held = true := by rw [node, Node.redefine, held]
    refine ⟨reached ▸ node, ?_, ?_⟩
    · intro later none_replaces
      rw [Execution.rules_run (again still).orderly none_replaces, reached, node]
    intro failure failed
    subst failed
    refine ⟨answered, ?_⟩
    intro later other done long longer pushes succeeds
    have tags : call.after.world.node.definition.tags = definition.tags := by
      rw [reached, node]
      rfl
    -- The push that came later has the effect that was still missing.
    have pushed_later : (call.after.trial (.changeTags .push) later).after.world.unrecorded =
        (before.world.reconfigured definition).unrecorded := by
      rcases Execution.exists_pushed (again still) .push long with
        ⟨result, last, left, trial_eq, comes_later⟩
      rw [trial_eq] at pushes ⊢
      cases pushes
      rw [tags, reached] at comes_later
      exact comes_later.of_ok.trans (SyncPoint.effect_of_alike comes.of_failure)
    rcases Execution.exists_parts accessible definition longer with
      ⟨_, _, reply, last, others⟩
    have granted : reply = .ok () := by
      rw [others.call] at succeeds
      cases succeeds
      rfl
    subst granted
    rw [pushed_later, others.ends]
    exact others.comes.complete_of_ok.symm
  · intro missing
    have granted := parts.comes.ok_of_missing missing
    subst granted
    refine ⟨rfl, ?_⟩
    rw [reached, World.node_of_unrecorded parts.comes.complete_of_ok]
    exact World.node_reconfigured definition before.world

/-- A node on an instance that runs, with some tags in its definition. -/
def tagged (tags : List Tag) : Outset :=
  { onInstance someInstance with
    definition := { Definition.onDemand "node" someInstance with tags } }

/-- The provider is asked too often while the old tags are cleared; nothing has changed then, and
the call can be made again. -/
theorem reconfigure_throttled :
    let before := (tagged [⟨"team", "core"⟩]).execution.run
      [.happen (.failNext .deleteTags (.throttled .deleteTags))]
    let definition : Definition := { name := "other", longLivedAgent := true }
    let call := before.trial (.reconfigure definition) (List.replicate 8 [])
    before.isFree .definition = true ∧ before.isFree .cache = true ∧
      call.answer? = some (.reconfigured (.error (.provider (.throttled .deleteTags)))) ∧
      call.after.world.unrecorded = before.world.unrecorded ∧
      (call.after.untroubled (.reconfigure definition)).after.world.unrecorded =
        (before.untroubled (.reconfigure definition)).after.world.unrecorded := by
  rcases (tagged [⟨"team", "core"⟩]).reconfigure_all_or_nothing
    [.happen (.failNext .deleteTags (.throttled .deleteTags))]
    { name := "other", longLivedAgent := true } (List.replicate 8 []) rfl rfl rfl (by decide) with
    ⟨cleared, pushed, outcome, clear, _, call, stopped, _, _⟩
  have throttled : cleared = .error (.provider (.throttled .deleteTags)) := by
    have answered := clear.symm.trans (show _ =
      some (Answer.tagOutcome (.error (.provider (.throttled .deleteTags)))) from rfl)
    simpa using answered
  rcases stopped _ throttled rfl with ⟨same, kept, _, retried⟩
  exact ⟨rfl, rfl, same ▸ call, kept, retried⟩

end Outset

end BuildAgent
