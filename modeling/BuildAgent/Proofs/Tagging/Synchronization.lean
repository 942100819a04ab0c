import BuildAgent.Proofs.Provider.Tags
import BuildAgent.Proofs.Task.Uninterrupted

/-!
# What one change of tags comes to

A change of tags that nothing interrupts has two ways to end (`SyncPoint.Comes`). Either no failure
of the provider gets in its way; then the answer is `SyncPoint.verdict` and the world has changed by
`SyncPoint.effect`, both of which depend on the instance and its tags alone. Or a failure gets in
its way; then that failure is the answer and nothing has changed.

`World.unrecorded` leaves out what every call changes, the journal and the provider's record of
calls, and the failures that wait there. All else is what a change of tags is about.
-/

namespace BuildAgent

namespace World

/-- The world without its journal, and with nothing of the provider but the instances. -/
def unrecorded (world : World) : World :=
  { world with
    journal := []
    provider := { instances := world.provider.instances } }

theorem node_of_unrecorded {world other : World} (alike : world.unrecorded = other.unrecorded) :
    world.node = other.node :=
  show world.unrecorded.node = other.unrecorded.node from congrArg World.node alike

theorem instances_of_unrecorded {world other : World}
    (alike : world.unrecorded = other.unrecorded) :
    world.provider.instances = other.provider.instances :=
  congrArg (fun world => world.provider.instances) alike

theorem find?_of_unrecorded {world other : World} (alike : world.unrecorded = other.unrecorded)
    (instanceId : InstanceId) :
    world.provider.find? instanceId = other.provider.find? instanceId := by
  simp only [Provider.find?, instances_of_unrecorded alike]

/-- What a call leaves behind that changes no instance: no more failures wait than before. -/
structure Keeps (world after : World) : Prop where
  alike : after.unrecorded = world.unrecorded
  failures : after.provider.failures ⊆ world.provider.failures

/-- The failures that a call can meet: those that wait and those that will come up. -/
def threats (world : World) (pattern : List (List Provider.Injection)) : List Provider.Injection :=
  world.provider.failures ++ pattern.flatten

theorem threats_of_fail (world : World) (failures : List Provider.Injection)
    (pattern : List (List Provider.Injection)) :
    (world.fail failures).threats pattern = world.threats (failures :: pattern) := by
  simp [threats, fail, withProvider]

theorem threats_subset {world after : World}
    (fewer : after.provider.failures ⊆ world.provider.failures)
    (pattern : List (List Provider.Injection)) : after.threats pattern ⊆ world.threats pattern :=
  List.append_subset.mpr
    ⟨fun _ waits => List.mem_append_left _ (fewer waits), List.subset_append_right _ _⟩

/-- Changes the tags of one instance. -/
def retag (change : TagChange) (instanceId : InstanceId) (batch : List Tag) (world : World) :
    World :=
  world.withProvider fun provider => provider.update instanceId fun snapshot =>
    { snapshot with tags := Provider.changed change batch snapshot.tags }

/-! ## Calls -/

theorem keeps_record (world : World) (call : Provider.Call) (event : Option Journal.Event) :
    world.Keeps (match event with
      | some event => { world with provider := world.provider.record call }.note event
      | none => { world with provider := world.provider.record call }) := by
  cases event with
  | none => exact ⟨rfl, List.eraseP_subset⟩
  | some event => exact ⟨rfl, List.eraseP_subset⟩

theorem among_of_waitingFailure? {provider : Provider} {operation : Provider.Operation}
    {failure : Provider.Failure} (waits : provider.waitingFailure? operation = some failure) :
    ⟨operation, failure⟩ ∈ provider.failures := by
  rcases Option.map_eq_some_iff.mp waits with ⟨⟨about, waiting⟩, first, rfl⟩
  obtain rfl : about = operation := by simpa using List.find?_some first
  exact List.mem_of_find?_eq_some first

/-- A description fails with a failure that waits for it, or it shows the instance. -/
theorem ask_describe (world : World) (instanceId : InstanceId) :
    (∃ failure after, world.ask (fun provider => provider.describe [instanceId]) =
        (.error failure, after) ∧ ⟨.describe, failure⟩ ∈ world.provider.failures ∧
        world.Keeps after) ∨
      ∃ after, world.ask (fun provider => provider.describe [instanceId]) =
        (.ok (world.provider.find? instanceId).toList, after) ∧ world.Keeps after := by
  rcases waiting : world.provider.waitingFailure? .describe with _ | failure
  · right
    refine ⟨_, ?_, world.keeps_record ⟨.describe, [instanceId], []⟩ none⟩
    have shown : [instanceId].filterMap
        (world.provider.record ⟨.describe, [instanceId], []⟩).find? =
          (world.provider.find? instanceId).toList := by
      have same : (world.provider.record ⟨.describe, [instanceId], []⟩).find? =
          world.provider.find? := rfl
      rw [same, List.filterMap_cons, List.filterMap_nil]
      cases world.provider.find? instanceId <;> rfl
    simp only [ask, Provider.describe, Provider.perform, waiting, shown]
  · left
    refine ⟨failure, _, ?_, among_of_waitingFailure? waiting, world.keeps_record
      ⟨.describe, [instanceId], []⟩ (some (.injectedFailure .describe failure))⟩
    simp only [ask, Provider.describe, Provider.perform, waiting]

/-- A change of an instance's tags fails with a failure that waits for it, or it is made. -/
theorem ask_changeTags (world : World) (change : TagChange) {instanceId : InstanceId}
    (batch : List Tag) {snapshot : Snapshot}
    (found : world.provider.find? instanceId = some snapshot) :
    (∃ failure after,
        world.ask (fun provider => provider.changeTags change instanceId batch) =
          (.error failure, after) ∧
        ⟨Provider.operationOf change, failure⟩ ∈ world.provider.failures ∧ world.Keeps after) ∨
      ∃ after, world.ask (fun provider => provider.changeTags change instanceId batch) =
        (.ok (), after) ∧ after.unrecorded = (world.retag change instanceId batch).unrecorded ∧
        after.provider.failures ⊆ world.provider.failures := by
  let call : Provider.Call := ⟨Provider.operationOf change, [instanceId], batch⟩
  rcases waiting : world.provider.waitingFailure? (Provider.operationOf change) with _ | failure
  · right
    have stands : (world.provider.record call).find? instanceId = some snapshot := found
    have recorded := (world.keeps_record call none).failures
    refine ⟨{ world with
      provider := (world.provider.record call).update instanceId fun snapshot =>
        { snapshot with tags := Provider.changed change batch snapshot.tags } }, ?_, rfl, recorded⟩
    simp only [ask, Provider.changeTags, Provider.perform, waiting, call] at stands ⊢
    simp only [stands]
  · left
    refine ⟨failure, _, ?_, among_of_waitingFailure? waiting,
      world.keeps_record call (some (.injectedFailure call.operation failure))⟩
    simp only [ask, Provider.changeTags, Provider.perform, waiting, call]

/-! ## Changes that change nothing -/

theorem retag_nil (change : TagChange) (instanceId : InstanceId) (world : World) :
    world.retag change instanceId [] = world := by
  have still : world.provider.update instanceId (fun snapshot =>
      { snapshot with tags := Provider.changed change [] snapshot.tags }) = world.provider := by
    cases change <;>
      simp [Provider.update, Provider.changed, TagMap.eraseAll, TagMap.insertAll]
  simp only [retag, withProvider, still]

theorem retag_of_unknown (change : TagChange) {instanceId : InstanceId} (batch : List Tag)
    {world : World} (unknown : world.provider.find? instanceId = none) :
    world.retag change instanceId batch = world := by
  have others : ∀ snapshot ∈ world.provider.instances, snapshot.instanceId ≠ instanceId := by
    intro snapshot known
    simpa using List.find?_eq_none.mp unknown snapshot known
  have still : world.provider.update instanceId (fun snapshot =>
      { snapshot with tags := Provider.changed change batch snapshot.tags }) = world.provider := by
    have same : ∀ snapshot ∈ world.provider.instances,
        (if snapshot.instanceId = instanceId then
          { snapshot with tags := Provider.changed change batch snapshot.tags }
        else snapshot) = id snapshot :=
      fun snapshot known => if_neg (others snapshot known)
    simp only [Provider.update, List.map_congr_left same, List.map_id]
  simp only [retag, withProvider, still]

end World

namespace SyncPoint

/-- What a change of tags is answered if no failure gets in its way. -/
def verdict (tags : List Tag) (world : World) : Except Refusal TagOutcome :=
  if tags = [] then .ok .skipped
  else
    match world.node.capacity.bound? with
    | none => .error (.noInstanceId world.node.capacity.label)
    | some instanceId =>
      match world.provider.find? instanceId with
      | none => .error (.instanceNotFound instanceId.text)
      | some _ => .ok (.applied (Tag.batch tags).length)

/-- What a change of tags does if no failure gets in its way. -/
def effect (change : TagChange) (tags : List Tag) (world : World) : World :=
  match world.node.capacity.bound? with
  | none => world
  | some instanceId => world.retag change instanceId (Tag.batch tags)

/-- Whether a failure can get in the way of a change of tags. -/
structure Hinders (change : TagChange) (tags : List Tag) (world : World)
    (failure : Provider.Injection) : Prop where
  some : tags ≠ []
  bound : ∃ instanceId, world.node.capacity.bound? = .some instanceId ∧
    (failure.operation = .describe ∨
      (failure.operation = Provider.operationOf change ∧
        (world.provider.find? instanceId).isSome = true))

/-- What a change of tags comes to that nothing interrupts but some failures. -/
inductive Comes (change : TagChange) (tags : List Tag) (failures : List Provider.Injection)
    (world : World) : Except Refusal TagOutcome → World → Prop where
  | unhindered {after : World} (alike : after.unrecorded = (effect change tags world).unrecorded) :
      Comes change tags failures world (verdict tags world) after
  | hindered {waiting : Provider.Injection} {after : World} (among : waiting ∈ failures)
      (hinders : Hinders change tags world waiting)
      (alike : after.unrecorded = world.unrecorded) :
      Comes change tags failures world (.error (.provider waiting.failure)) after

/-! ## What the verdict and the effect depend on -/

section Alike

variable {change : TagChange} {tags : List Tag} {world other : World}
  (alike : world.unrecorded = other.unrecorded)

include alike

theorem verdict_of_alike : verdict tags world = verdict tags other := by
  simp only [verdict, World.node_of_unrecorded alike, World.find?_of_unrecorded alike]

theorem effect_of_alike :
    (effect change tags world).unrecorded = (effect change tags other).unrecorded := by
  have retagged : ∀ instanceId batch, (world.retag change instanceId batch).unrecorded =
      (other.retag change instanceId batch).unrecorded := by
    intro instanceId batch
    exact congrArg (World.retag change instanceId batch) alike
  simp only [effect, World.node_of_unrecorded alike]
  split
  · exact alike
  · exact retagged _ _

theorem Comes.of_alike {fewer more : List Provider.Injection} {result : Except Refusal TagOutcome}
    {after : World} (comes : Comes change tags fewer world result after) (among : fewer ⊆ more) :
    Comes change tags more other result after := by
  cases comes with
  | unhindered changed =>
      rw [verdict_of_alike alike]
      exact .unhindered (changed.trans (effect_of_alike alike))
  | hindered waits hinders kept =>
      refine .hindered (among waits) ⟨hinders.some, ?_⟩ (kept.trans alike)
      rw [← World.node_of_unrecorded alike, ← funext (World.find?_of_unrecorded alike)]
      exact hinders.bound

end Alike

/-- What a change of tags comes to is the same for worlds that differ in their records alone. -/
theorem Comes.of_after {change : TagChange} {tags : List Tag} {failures : List Provider.Injection}
    {world after other : World} {result : Except Refusal TagOutcome}
    (comes : Comes change tags failures world result after)
    (alike : other.unrecorded = after.unrecorded) :
    Comes change tags failures world result other := by
  cases comes with
  | unhindered changed => exact .unhindered (alike.trans changed)
  | hindered waits hinders kept => exact .hindered waits hinders (alike.trans kept)

theorem effect_of_verdict_error {change : TagChange} {tags : List Tag} {world : World}
    {refusal : Refusal} (refused : verdict tags world = .error refusal) :
    effect change tags world = world := by
  simp only [verdict] at refused
  simp only [effect]
  split at refused
  · cases refused
  · split
    · rfl
    · rename_i instanceId bound
      simp only [bound] at refused
      split at refused
      · rename_i unknown
        exact World.retag_of_unknown change _ unknown
      · cases refused

/-- Only a node that has no instance is refused a change of tags. -/
theorem isMissingInstance_of_verdict {tags : List Tag} {world : World} {refusal : Refusal}
    (refused : verdict tags world = .error refusal) : refusal.isMissingInstance = true := by
  simp only [verdict] at refused
  split at refused
  · cases refused
  · split at refused
    · cases refused
      rfl
    · split at refused
      · cases refused
        rfl
      · cases refused

/-- A change of tags that succeeds has had its effect. -/
theorem Comes.of_ok {change : TagChange} {tags : List Tag} {failures : List Provider.Injection}
    {world after : World} {outcome : TagOutcome}
    (comes : Comes change tags failures world (.ok outcome) after) :
    after.unrecorded = (effect change tags world).unrecorded := by
  generalize result_eq : Except.ok outcome = result at comes
  cases comes with
  | unhindered alike => exact alike
  | hindered among hinders alike => cases result_eq

/-- A change of tags that a failure of the provider ends has changed nothing. -/
theorem Comes.of_failure {change : TagChange} {tags : List Tag}
    {failures : List Provider.Injection} {world after : World} {failure : Provider.Failure}
    (comes : Comes change tags failures world (.error (.provider failure)) after) :
    after.unrecorded = world.unrecorded := by
  generalize result_eq : Except.error (Refusal.provider failure) = result at comes
  cases comes with
  | unhindered alike => cases isMissingInstance_of_verdict result_eq.symm
  | hindered among hinders alike => exact alike

/-! ## Following a change of tags -/

/-- Whether a change of tags ends within a number of steps, and comes to what it should. -/
def Ends (change : TagChange) (tags : List Tag) (world : World)
    (pattern : List (List Provider.Injection)) (steps : Nat)
    (stage : Stage SyncPoint (Except Refusal TagOutcome)) : Prop :=
  ∃ result after left,
    Stage.follow (resume change tags) stage pattern = (.done result after, left) ∧
      Comes change tags (world.threats pattern) world result after ∧
      after.threats left ⊆ world.threats pattern ∧ pattern.length ≤ left.length + steps

variable {change : TagChange} {tags : List Tag} {world : World}
  {failures : List Provider.Injection} {pattern : List (List Provider.Injection)} {steps : Nat}

theorem Ends.mono {more : Nat} {stage : Stage SyncPoint (Except Refusal TagOutcome)}
    (ends : Ends change tags world pattern steps stage) (le : steps ≤ more) :
    Ends change tags world pattern more stage := by
  rcases ends with ⟨result, after, left, followed, comes, threats, spent⟩
  exact ⟨result, after, left, followed, comes, threats, by omega⟩

/-- A step that changes nothing leads to the same end. -/
theorem Ends.pause {point : SyncPoint} {middle : World}
    (kept : (world.fail failures).Keeps middle)
    (rest : Ends change tags middle pattern steps
      (resume change tags point (world.fail failures))) :
    Ends change tags world (failures :: pattern) (steps + 1) (.pause point world) := by
  rcases rest with ⟨result, after, left, followed, comes, threats, spent⟩
  have alike : middle.unrecorded = world.unrecorded := kept.alike
  have fewer : middle.threats pattern ⊆ world.threats (failures :: pattern) :=
    World.threats_of_fail world failures pattern ▸ World.threats_subset kept.failures pattern
  refine ⟨result, after, left, followed, comes.of_alike alike fewer,
    List.Subset.trans threats fewer, ?_⟩
  rw [List.length_cons]
  omega

theorem ends_done {result : Except Refusal TagOutcome} {after : World}
    (fewer : after.provider.failures ⊆ world.provider.failures)
    (comes : Comes change tags (world.threats pattern) world result after) :
    Ends change tags world pattern 0 (.done result after) :=
  ⟨result, after, pattern, Stage.follow_done _ _ _ _, comes,
    World.threats_subset fewer pattern, Nat.le_refl _⟩

theorem ends_hindered {waiting : Provider.Injection} {after : World}
    (waits : waiting ∈ world.provider.failures) (hinders : Hinders change tags world waiting)
    (kept : world.Keeps after) :
    Ends change tags world pattern 0 (.done (.error (.provider waiting.failure)) after) :=
  ends_done kept.failures (.hindered (List.mem_append_left _ waits) hinders kept.alike)

theorem keeps_refl (world : World) : world.Keeps world :=
  ⟨rfl, List.Subset.refl _⟩

section Bound

variable {instanceId : InstanceId} (some : tags ≠ [])
  (bound : world.node.capacity.bound? = .some instanceId)

include some bound

theorem ends_submitting {snapshot : Snapshot}
    (found : world.provider.find? instanceId = .some snapshot) :
    Ends change tags world (failures :: pattern) 1
      (.pause (.submitting instanceId (Tag.batch tags)) world) := by
  apply Ends.pause (keeps_refl (world.fail failures))
  rcases World.ask_changeTags (world.fail failures) change (Tag.batch tags) found with
    ⟨failure, after, asked, waits, kept⟩ | ⟨after, asked, changed, fewer⟩
  · simp only [resume, asked]
    have known : (world.provider.find? instanceId).isSome = true := by rw [found]; rfl
    exact ends_hindered waits ⟨some, instanceId, bound, .inr ⟨rfl, known⟩⟩ kept
  · simp only [resume, asked]
    have granted : .ok (.applied (Tag.batch tags).length) = verdict tags (world.fail failures) := by
      have stands : (world.fail failures).provider.find? instanceId = .some snapshot := found
      simp only [verdict, if_neg some, World.node_fail, bound, stands]
    have alike : (effect change tags (world.fail failures)).unrecorded = after.unrecorded := by
      simp only [effect, World.node_fail, bound, changed]
    rw [granted]
    exact ends_done fewer (.unhindered alike.symm)

theorem ends_describing {later : List Provider.Injection} :
    Ends change tags world (failures :: later :: pattern) 2
      (.pause (.looking (.describing instanceId)) world) := by
  rcases World.ask_describe (world.fail failures) instanceId with
    ⟨failure, after, asked, waits, kept⟩ | ⟨after, asked, kept⟩
  · apply Ends.pause (keeps_refl (world.fail failures))
    simp only [resume, LookupPoint.resume, asked, Stage.andThen_done]
    exact (ends_hindered waits ⟨some, instanceId, bound, .inl rfl⟩ kept).mono (Nat.zero_le 1)
  · apply Ends.pause kept
    have stands : after.node.capacity.bound? = .some instanceId :=
      World.node_of_unrecorded kept.alike ▸ bound
    have same : (world.fail failures).provider.find? instanceId =
        after.provider.find? instanceId := (World.find?_of_unrecorded kept.alike instanceId).symm
    simp only [resume, LookupPoint.resume, asked, Stage.andThen_done, same]
    rcases found : after.provider.find? instanceId with _ | snapshot
    · -- The instance is unknown, and the answer waits for the cache lock.
      apply Ends.pause (keeps_refl (after.fail later))
      have refused : .error (.instanceNotFound instanceId.text) =
          verdict tags (after.fail later) := by
        have unknown : (after.fail later).provider.find? instanceId = none := found
        simp only [verdict, if_neg some, World.node_fail, stands, unknown]
      have still : effect change tags (after.fail later) = after.fail later :=
        effect_of_verdict_error refused.symm
      simp only [resume, World.node_fail, stands, Option.map_some, Option.getD_some, refused]
      exact ends_done (List.Subset.refl _) (.unhindered (congrArg World.unrecorded still.symm))
    · simp only [Option.toList_some, List.head?_cons, Provider.instanceId_of_find? found]
      exact ends_submitting some stands found

end Bound

/-- **A change of tags that nothing interrupts ends after at most three more steps.** -/
theorem ends_enter (change : TagChange) (tags : List Tag) (world : World)
    (enough : 3 ≤ pattern.length) :
    Ends change tags world pattern 3 (enter change tags world) := by
  rcases pattern with _ | ⟨first, _ | ⟨second, _ | ⟨third, pattern⟩⟩⟩
  iterate 3 exact absurd enough (by simp)
  by_cases empty : tags = []
  · have skipped : .ok .skipped = verdict tags world := by simp only [verdict, if_pos empty]
    have still : effect change tags world = world := by
      subst empty
      simp only [effect]
      split
      · rfl
      · exact World.retag_nil change _ world
    simp only [enter, if_pos empty, skipped]
    have alike : (world.note (.nothingToSynchronize change)).unrecorded =
        (effect change tags world).unrecorded := by
      rw [still]
      rfl
    have fewer : (world.note (.nothingToSynchronize change)).provider.failures ⊆
        world.provider.failures := List.Subset.refl _
    exact (ends_done fewer (.unhindered alike)).mono (Nat.zero_le 3)
  · simp only [enter, if_neg empty]
    apply Ends.pause (keeps_refl (world.fail first))
    rcases bound : world.node.capacity.bound? with _ | instanceId
    · have refused : .error (.noInstanceId world.node.capacity.label) =
          verdict tags (world.fail first) := by
        simp only [verdict, if_neg empty, World.node_fail, bound]
      have still : effect change tags (world.fail first) = world.fail first :=
        effect_of_verdict_error refused.symm
      simp only [resume, LookupPoint.resume, World.node_fail, bound, Stage.andThen_done, refused]
      exact (ends_done (List.Subset.refl _)
        (.unhindered (congrArg World.unrecorded still.symm))).mono (Nat.zero_le 2)
    · simp only [resume, LookupPoint.resume, World.node_fail, bound, Stage.andThen_pause]
      have stands : (world.fail first).node.capacity.bound? = some instanceId := bound
      exact ends_describing empty stands

end SyncPoint

end BuildAgent
