import BuildAgent.Proofs.Provider.TagAlgebra
import BuildAgent.Proofs.Tagging.NetEffect
import BuildAgent.Proofs.Task.Calls

/-!
# Pushes and clears that the provider serves

When nothing gets in the way of a change of tags, it makes two calls, a description and the change
with the batch of its tags, and has its effect (`SyncPoint.follow_served`). What it leaves can be
changed again in the same way (`Execution.Serves.after_change`), so a row of pushes and clears comes
to what the algebra of batches says (`Outset.push_and_clear_algebra`).
-/

namespace BuildAgent

namespace Provider

variable {provider : Provider} {instanceId : InstanceId}

/-- The operations of a change of tags. -/
def IsTagging (operation : Operation) : Prop :=
  operation = .describe ∨ operation = .deleteTags ∨ operation = .createTags

theorem isTagging_operationOf (change : TagChange) : IsTagging (operationOf change) := by
  cases change with
  | clear => exact .inr (.inl rfl)
  | push => exact .inr (.inr rfl)

theorem waitingFailure?_of_spared {operation : Operation}
    (spared : ∀ failure ∈ provider.failures, failure.SparesTags) (tagging : IsTagging operation) :
    provider.waitingFailure? operation = none := by
  apply Option.map_eq_none_iff.mpr
  apply List.find?_eq_none.mpr
  intro failure waits
  rcases spared failure waits with ⟨noDescribe, noDelete, noCreate⟩
  rcases tagging with rfl | rfl | rfl
  · simpa using noDescribe
  · simpa using noDelete
  · simpa using noCreate

end Provider

namespace World

variable {world : World} {instanceId : InstanceId} {snapshot : Snapshot}

/-- Records a call at the provider. -/
def recordCall (call : Provider.Call) (world : World) : World :=
  world.withProvider fun provider => provider.record call

/-- The world after a change of an instance's tags that the provider has served. -/
def served (change : TagChange) (instanceId : InstanceId) (batch : List Tag) (world : World) :
    World :=
  let described := world.recordCall (.describing instanceId)
  let recorded := described.recordCall ⟨Provider.operationOf change, [instanceId], batch⟩
  (recorded.retag change instanceId batch).note (.synchronized instanceId change batch.length)

theorem fail_nil (world : World) : world.fail [] = world := by
  simp only [fail, withProvider, List.append_nil]

theorem ask_describe_of_spared
    (spared : ∀ failure ∈ world.provider.failures, failure.SparesTags)
    (found : world.provider.find? instanceId = some snapshot) :
    world.ask (fun provider => provider.describe [instanceId]) =
      (.ok [snapshot], world.recordCall (.describing instanceId)) := by
  have calm := Provider.waitingFailure?_of_spared spared (.inl rfl)
  have shown : [instanceId].filterMap
      (world.provider.record ⟨.describe, [instanceId], []⟩).find? = [snapshot] := by
    have same : (world.provider.record ⟨.describe, [instanceId], []⟩).find? instanceId =
        some snapshot := found
    rw [List.filterMap_cons, same, List.filterMap_nil]
  simp only [ask, Provider.describe, Provider.perform, calm, shown]
  rfl

theorem ask_changeTags_of_spared (change : TagChange) (batch : List Tag)
    (spared : ∀ failure ∈ world.provider.failures, failure.SparesTags)
    (found : world.provider.find? instanceId = some snapshot) :
    world.ask (fun provider => provider.changeTags change instanceId batch) =
      (.ok (), (world.recordCall ⟨Provider.operationOf change, [instanceId], batch⟩).retag change
        instanceId batch) := by
  have calm := Provider.waitingFailure?_of_spared spared (Provider.isTagging_operationOf change)
  have stands : (world.provider.record
      ⟨Provider.operationOf change, [instanceId], batch⟩).find? instanceId = some snapshot := found
  simp only [ask, Provider.changeTags, Provider.perform, calm, stands]
  rfl

/-! ## What is left -/

theorem failures_recordCall (call : Provider.Call) (world : World) :
    (world.recordCall call).provider.failures ⊆ world.provider.failures :=
  List.eraseP_subset

theorem failures_served (change : TagChange) (instanceId : InstanceId) (batch : List Tag)
    (world : World) :
    (world.served change instanceId batch).provider.failures ⊆ world.provider.failures :=
  List.Subset.trans (failures_recordCall _ _) (failures_recordCall _ world)

theorem find?_served (change : TagChange) (batch : List Tag)
    (found : world.provider.find? instanceId = some snapshot) :
    (world.served change instanceId batch).provider.find? instanceId =
      some { snapshot with tags := Provider.changed change batch snapshot.tags } := by
  let described := world.recordCall (.describing instanceId)
  let recorded := described.recordCall ⟨Provider.operationOf change, [instanceId], batch⟩
  have stands : recorded.provider.find? instanceId = some snapshot := found
  exact find?_retag change batch stands

theorem find?_served_of_ne (change : TagChange) (batch : List Tag) (world : World)
    {another : InstanceId} (different : another ≠ instanceId) :
    (world.served change instanceId batch).provider.find? another =
      world.provider.find? another :=
  Provider.find?_update_of_ne _ different

/-! ## Changes one after the other -/

/-- Changes the tags of one instance by a function. -/
def mapTags (instanceId : InstanceId) (change : TagMap → TagMap) (world : World) : World :=
  world.withProvider fun provider => provider.update instanceId fun snapshot =>
    { snapshot with tags := change snapshot.tags }

theorem mapTags_mapTags (instanceId : InstanceId) (first second : TagMap → TagMap)
    (world : World) :
    (world.mapTags instanceId first).mapTags instanceId second =
      world.mapTags instanceId fun tags => second (first tags) := by
  simp only [mapTags, withProvider, Provider.update, List.map_map]
  congr 3
  funext snapshot
  simp only [Function.comp_apply]
  split <;> rfl

theorem retag_eq (change : TagChange) (instanceId : InstanceId) (batch : List Tag)
    (world : World) :
    world.retag change instanceId batch =
      world.mapTags instanceId (Provider.changed change batch) := rfl

theorem retag_push_push (instanceId : InstanceId) (batch : List Tag) (world : World) :
    (world.retag .push instanceId batch).retag .push instanceId batch =
      world.retag .push instanceId batch := by
  simp only [retag_eq, mapTags_mapTags]
  apply congrArg fun change => world.mapTags instanceId change
  funext old
  exact TagMap.insertAll_insertAll old batch

theorem retag_push_clear_push (instanceId : InstanceId) (tags : List Tag) (world : World) :
    ((world.retag .push instanceId (Tag.batch tags)).retag .clear instanceId
        (Tag.batch tags)).retag .push instanceId (Tag.batch tags) =
      world.retag .push instanceId (Tag.batch tags) := by
  simp only [retag_eq, mapTags_mapTags]
  apply congrArg fun change => world.mapTags instanceId change
  funext old
  exact TagMap.insertAll_eraseAll_insertAll (Tag.pairwise_batch tags)

end World

/-! ## One change -/

namespace SyncPoint

variable {tags : List Tag} {world : World} {instanceId : InstanceId} {snapshot : Snapshot}

/-- **A change of tags that is served makes its two calls and has its effect.** -/
theorem follow_served (change : TagChange) (some : tags ≠ [])
    (spared : ∀ failure ∈ world.provider.failures, failure.SparesTags)
    (bound : world.node.capacity.bound? = .some instanceId)
    (found : world.provider.find? instanceId = .some snapshot) :
    Stage.follow (resume change tags) (enter change tags world) (List.replicate 3 []) =
      (.done (.ok (.applied (Tag.batch tags).length))
        (world.served change instanceId (Tag.batch tags)), []) := by
  let described := world.recordCall (.describing instanceId)
  have spared_after : ∀ failure ∈ described.provider.failures, failure.SparesTags :=
    fun failure waits => spared failure (world.failures_recordCall _ waits)
  have found_after : described.provider.find? instanceId = .some snapshot := found
  have asked := World.ask_describe_of_spared spared found
  have changed := World.ask_changeTags_of_spared change (Tag.batch tags) spared_after found_after
  have named := Provider.instanceId_of_find? found
  have looks : resume change tags (.looking .waiting) world =
      .pause (.looking (.describing instanceId)) world := by
    simp only [resume, LookupPoint.resume, bound, Stage.andThen_pause]
  have describes : resume change tags (.looking (.describing instanceId)) world =
      .pause (.submitting instanceId (Tag.batch tags)) described := by
    simp only [resume, LookupPoint.resume, asked, Stage.andThen_done, List.head?_cons, named,
      described]
  have submits : resume change tags (.submitting instanceId (Tag.batch tags)) described =
      .done (.ok (.applied (Tag.batch tags).length))
        (world.served change instanceId (Tag.batch tags)) := by
    simp only [resume, changed]
    rfl
  simp only [enter, if_neg some, List.replicate, Stage.follow, World.fail_nil, looks, describes,
    submits]

/-- Without tags nothing is done. -/
theorem follow_skipped (change : TagChange) (world : World)
    (pattern : List (List Provider.Injection)) :
    Stage.follow (resume change []) (enter change [] world) pattern =
      (.done (.ok .skipped) (world.note (.nothingToSynchronize change)), pattern) :=
  Stage.follow_done _ _ _ _

end SyncPoint

theorem Point.follow_synchronizing {change : TagChange} {tags : List Tag} {locked : Bool}
    {world after : World} {failures : List Provider.Injection}
    {pattern left : List (List Provider.Injection)} {result : Except Refusal TagOutcome}
    (followed : Stage.follow (SyncPoint.resume change tags)
      (SyncPoint.enter change tags (world.fail failures)) pattern = (.done result after, left)) :
    Stage.follow resume (.pause (.synchronizing change tags locked .entering) world)
        (failures :: pattern) =
      (.done (.tagOutcome result) after, left) := by
  have part : ∀ point middle, resume (.synchronizing change tags locked point) middle =
      (point.resume change tags middle).andThen (.synchronizing change tags locked)
        (finish .tagOutcome) := fun _ _ => rfl
  have begun : resume (.synchronizing change tags locked .entering) (world.fail failures) =
      (SyncPoint.enter change tags (world.fail failures)).andThen
        (.synchronizing change tags locked) (finish .tagOutcome) := rfl
  simp only [Stage.follow]
  rw [begun, Stage.follow_andThen part followed]
  exact Stage.follow_done _ _ _ _

/-! ## Calls -/

namespace Execution

variable {execution : Execution} {instanceId : InstanceId} {snapshot : Snapshot}
  {change : TagChange} {tags : List Tag}

/-- A call before and during which no failure comes up. -/
def calmTrial (execution : Execution) (request : Request) : Trial :=
  execution.trial request (List.replicate 4 [])

/-- Whether the provider serves every change of the tags of the node's instance. -/
structure Serves (execution : Execution) (instanceId : InstanceId) (snapshot : Snapshot) :
    Prop where
  accessible : execution.Accessible
  spared : ∀ failure ∈ execution.world.provider.failures, failure.SparesTags
  bound : execution.world.node.capacity.bound? = some instanceId
  found : execution.world.provider.find? instanceId = some snapshot

/-- The execution after a change of tags that was served. -/
def afterChange (execution : Execution) (change : TagChange) (tags : List Tag)
    (instanceId : InstanceId) : Execution :=
  execution.called (.synchronize change tags)
    (.tagOutcome (.ok (.applied (Tag.batch tags).length)))
    (execution.world.served change instanceId (Tag.batch tags))

theorem unrecorded_afterChange (execution : Execution) (change : TagChange) (tags : List Tag)
    (instanceId : InstanceId) :
    (execution.afterChange change tags instanceId).world.unrecorded =
      execution.world.unrecorded.retag change instanceId (Tag.batch tags) := rfl

/-- A call about tags comes to what its change comes to. -/
theorem calmTrial_of_follow (accessible : execution.Accessible) {after : World}
    {result : Except Refusal TagOutcome} {left : List (List Provider.Injection)}
    (followed : Stage.follow (SyncPoint.resume change tags)
      (SyncPoint.enter change tags execution.world) (List.replicate 3 []) =
        (.done result after, left)) :
    execution.calmTrial (.synchronize change tags) =
        ⟨some (.tagOutcome result),
          execution.called (.synchronize change tags) (.tagOutcome result) after, left⟩ ∧
      (tags = execution.world.node.definition.tags →
        execution.calmTrial (.changeTags change) =
          ⟨some (.tagOutcome result),
            execution.called (.changeTags change) (.tagOutcome result) after, left⟩) := by
  have begun : Stage.follow (SyncPoint.resume change tags)
      (SyncPoint.enter change tags (execution.world.fail [])) (List.replicate 3 []) =
        (.done result after, left) := by rw [World.fail_nil, followed]
  constructor
  · exact trial_eq accessible.orderly accessible.held accessible.definitionFree
      accessible.cacheFree rfl (Point.follow_synchronizing begun)
  · rintro rfl
    exact trial_eq accessible.orderly accessible.held accessible.definitionFree
      accessible.cacheFree rfl (Point.follow_changingTags begun)

theorem Serves.calmTrial_eq (serves : execution.Serves instanceId snapshot) (change : TagChange)
    (some : tags ≠ []) :
    execution.calmTrial (.synchronize change tags) =
      ⟨.some (.tagOutcome (.ok (.applied (Tag.batch tags).length))),
        execution.afterChange change tags instanceId, []⟩ :=
  (calmTrial_of_follow serves.accessible
    (SyncPoint.follow_served change some serves.spared serves.bound serves.found)).1

/-- The instance can be tagged again after a change of its tags. -/
theorem Serves.after_change (serves : execution.Serves instanceId snapshot) (change : TagChange)
    (tags : List Tag) :
    (execution.afterChange change tags instanceId).Serves instanceId
      { snapshot with tags := Provider.changed change (Tag.batch tags) snapshot.tags } where
  accessible := serves.accessible.called _ _ serves.accessible.held
  spared failure waits := serves.spared failure (World.failures_served _ _ _ _ waits)
  bound := serves.bound
  found := World.find?_served change (Tag.batch tags) serves.found

end Execution

/-- What a change makes of the tags of an instance: a push gives each name of its list the greatest
value that the list has for it, a clear takes away the pairs of its list. -/
def TagChange.Makes (change : TagChange) (tags : List Tag) (old new : TagMap) : Prop :=
  match change with
  | .push =>
    (∀ name, (∃ tag ∈ tags, tag.name = name) →
      ∃ value, new.find? name = some value ∧ ⟨name, value⟩ ∈ tags ∧
        ∀ tag ∈ tags, tag.name = name → tag.value ≤ value) ∧
    ∀ name, (∀ tag ∈ tags, tag.name ≠ name) → new.find? name = old.find? name
  | .clear =>
    ∀ name value, new.find? name = some value ↔
      old.find? name = some value ∧ ⟨name, value⟩ ∉ tags

theorem TagChange.makes_changed (change : TagChange) (tags : List Tag) (old : TagMap) :
    change.Makes tags old (Provider.changed change (Tag.batch tags) old) := by
  cases change with
  | push =>
      exact ⟨fun _ => TagMap.find?_insertAll_batch,
        fun _ => TagMap.find?_insertAll_batch_of_not_mem⟩
  | clear =>
      intro name value
      rw [← @Tag.mem_batch ⟨name, value⟩ tags]
      exact TagMap.find?_eraseAll_eq_some_iff

/-- A call that changes the tags of an instance as it should: it reports the number of distinct
tags, describes the instance and submits these tags once each in ascending order, and changes the
tags of the instance and nothing else at the provider. -/
structure Trial.Applies (call : Trial) (change : TagChange) (tags : List Tag) (before : World)
    (instanceId : InstanceId) (snapshot : Snapshot) : Prop where
  reports : call.answer? = some (.tagOutcome (.ok (.applied tags.dedup.length)))
  calls : ∃ batch, batch.Pairwise Tag.Below ∧ (∀ tag, tag ∈ batch ↔ tag ∈ tags) ∧
    call.after.world.provider.calls =
      Provider.keepCall ⟨Provider.operationOf change, [instanceId], batch⟩
        (Provider.keepCall (.describing instanceId) before.provider.calls)
  makes : ∃ new, change.Makes tags snapshot.tags new ∧
    call.after.world.provider.find? instanceId = some { snapshot with tags := new }
  spares : ∀ another, another ≠ instanceId →
    call.after.world.provider.find? another = before.provider.find? another

theorem Execution.Serves.applies {execution : Execution} {instanceId : InstanceId}
    {snapshot : Snapshot} {tags : List Tag} (serves : execution.Serves instanceId snapshot)
    (change : TagChange) (some : tags ≠ []) :
    (execution.calmTrial (.synchronize change tags)).Applies change tags execution.world instanceId
      snapshot := by
  rw [serves.calmTrial_eq change some]
  refine ⟨?_, ⟨Tag.batch tags, Tag.pairwise_below_batch tags, fun _ => Tag.mem_batch, rfl⟩,
    ⟨_, change.makes_changed tags snapshot.tags,
      World.find?_served change (Tag.batch tags) serves.found⟩, ?_⟩
  · rw [Tag.length_batch]
  · intro another different
    exact World.find?_served_of_ne change (Tag.batch tags) execution.world different

namespace Outset

/-- **The algebra of pushes and clears.** In any state that can be reached in which the provider
shows the instance, whatever its tags are, and in which no failure waits for a call about tags: for
every list of tags but the empty one, each change comes to what it should (`Trial.Applies`) and
depends on the set of the tags alone. A push that is made again changes nothing, a clear after a
push leaves the old tags without the names of the list, and a push, a clear and a push come to one
push. The empty list makes no call. A call that changes the tags of the definition does what a call
with these tags does. -/
theorem push_and_clear_algebra (outset : Outset) (moves : List Move) (tags : List Tag)
    {instanceId : InstanceId} {snapshot : Snapshot}
    (held : (outset.execution.run moves).world.node.held = true)
    (definitionFree : (outset.execution.run moves).isFree .definition = true)
    (cacheFree : (outset.execution.run moves).isFree .cache = true)
    (spared : ∀ failure ∈ (outset.execution.run moves).world.provider.failures,
      failure.SparesTags)
    (bound : (outset.execution.run moves).world.node.capacity.bound? = some instanceId)
    (found : (outset.execution.run moves).world.provider.find? instanceId = some snapshot) :
    let before := outset.execution.run moves
    let push := before.calmTrial (.synchronize .push tags)
    let pushed := push.after.world
    let again := (push.after.calmTrial (.synchronize .push tags)).after.world
    let clear := push.after.calmTrial (.synchronize .clear tags)
    let afresh := (clear.after.calmTrial (.synchronize .push tags)).after.world
    (tags ≠ [] →
      (∀ change, (before.calmTrial (.synchronize change tags)).Applies change tags before.world
        instanceId snapshot) ∧
      (∀ change other, (∀ tag, tag ∈ other ↔ tag ∈ tags) →
        (before.calmTrial (.synchronize change other)).answer? =
          (before.calmTrial (.synchronize change tags)).answer? ∧
        (before.calmTrial (.synchronize change other)).after.world =
          (before.calmTrial (.synchronize change tags)).after.world) ∧
      again.unrecorded = pushed.unrecorded ∧
      (∃ left, clear.after.world.provider.find? instanceId =
          some { snapshot with tags := left } ∧
        ∀ name, left.find? name =
          if ∃ tag ∈ tags, tag.name = name then none else snapshot.tags.find? name) ∧
      afresh.unrecorded = pushed.unrecorded) ∧
    (tags = [] → ∀ change,
      (before.calmTrial (.synchronize change tags)).answer? =
        some (.tagOutcome (.ok .skipped)) ∧
      (before.calmTrial (.synchronize change tags)).after.world.provider =
        before.world.provider) ∧
    (tags = before.world.node.definition.tags → ∀ change,
      (before.calmTrial (.changeTags change)).answer? =
        (before.calmTrial (.synchronize change tags)).answer? ∧
      (before.calmTrial (.changeTags change)).after.world =
        (before.calmTrial (.synchronize change tags)).after.world) := by
  intro before push pushed again clear afresh
  have accessible : before.Accessible :=
    ⟨(outset.sound_run moves).orderly, held, definitionFree, cacheFree⟩
  have serves : before.Serves instanceId snapshot := ⟨accessible, spared, bound, found⟩
  refine ⟨?_, ?_, ?_⟩
  · intro some
    have serves_pushed := serves.after_change .push tags
    have serves_cleared := serves_pushed.after_change .clear tags
    have pushed_after : push.after = before.afterChange .push tags instanceId :=
      congrArg Trial.after (serves.calmTrial_eq .push some)
    have cleared_after : clear.after = (before.afterChange .push tags instanceId).afterChange
        .clear tags instanceId := by
      simp only [clear, pushed_after, serves_pushed.calmTrial_eq .clear some]
    have again_eq := serves_pushed.calmTrial_eq .push some
    have afresh_eq := serves_cleared.calmTrial_eq .push some
    refine ⟨fun change => serves.applies change some, ?_, ?_, ?_, ?_⟩
    · intro change other same
      have others : other ≠ [] := by
        rw [← Tag.batch_eq_nil_iff.ne, Tag.batch_eq_of_mem_iff same]
        exact Tag.batch_eq_nil_iff.ne.mpr some
      rw [serves.calmTrial_eq change others, serves.calmTrial_eq change some,
        Execution.afterChange, Execution.afterChange, Tag.batch_eq_of_mem_iff same]
      exact ⟨rfl, rfl⟩
    · simp only [again, pushed, pushed_after, again_eq]
      rw [Execution.unrecorded_afterChange, Execution.unrecorded_afterChange,
        World.retag_push_push]
    · refine ⟨_, cleared_after ▸ serves_cleared.found, ?_⟩
      intro name
      have cleared := TagMap.find?_eraseAll_insertAll snapshot.tags name (Tag.pairwise_batch tags)
      simp only [Tag.mem_batch] at cleared
      exact cleared
    · simp only [afresh, pushed, cleared_after, afresh_eq, pushed_after]
      rw [Execution.unrecorded_afterChange, Execution.unrecorded_afterChange,
        Execution.unrecorded_afterChange, World.retag_push_clear_push]
  · rintro rfl change
    have skipped := Execution.calmTrial_of_follow accessible
      (SyncPoint.follow_skipped change before.world _)
    rw [skipped.1]
    exact ⟨rfl, rfl⟩
  · intro ours change
    by_cases some : tags = []
    · subst some
      have skipped := Execution.calmTrial_of_follow accessible
        (SyncPoint.follow_skipped change before.world _)
      rw [skipped.1, skipped.2 ours]
      exact ⟨rfl, rfl⟩
    · have followed := Execution.calmTrial_of_follow accessible
        (SyncPoint.follow_served change some spared bound found)
      rw [followed.1, followed.2 ours]
      exact ⟨rfl, rfl⟩

/-- Tags with one stage twice, and another stage. -/
def stages : List Tag := [⟨"stage", "test"⟩, ⟨"stage", "live"⟩, ⟨"stage", "test"⟩]

/-- Somebody has tagged the instance of a node with these tags. -/
def staged : Execution :=
  (tagged stages).execution.run
    [.happen (.changeTags .push someInstance [⟨"stage", "idle"⟩, ⟨"team", "core"⟩])]

/-- The greater stage is pushed, and cleared again; the team stays. -/
theorem push_and_clear_stages :
    let push := staged.calmTrial (.synchronize .push stages)
    let clear := push.after.calmTrial (.synchronize .clear stages)
    staged.isFree .definition = true ∧ staged.isFree .cache = true ∧
      staged.world.provider.failures = [] ∧
      push.answer? = some (.tagOutcome (.ok (.applied 2))) ∧
      (staged.calmTrial (.changeTags .push)).answer? = push.answer? ∧
      ∃ snapshot, clear.after.world.provider.find? someInstance = some snapshot ∧
        snapshot.tags.find? "stage" = none ∧ snapshot.tags.find? "team" = some "core" := by
  have algebra := (tagged stages).push_and_clear_algebra
    [.happen (.changeTags .push someInstance [⟨"stage", "idle"⟩, ⟨"team", "core"⟩])] stages
    rfl rfl rfl nofun rfl rfl
  rw [← staged] at algebra
  dsimp only at algebra ⊢
  rcases algebra with ⟨changes, _, ours⟩
  rcases changes (by decide) with ⟨applies, _, _, ⟨left, found, lookups⟩, _⟩
  have distinct : stages.dedup.length = 2 := by decide
  have reports := (applies .push).reports
  rw [distinct] at reports
  have stage : left.find? "stage" = none := by
    rw [lookups, if_pos (by decide)]
  have team : left.find? "team" = some "core" := by
    rw [lookups, if_neg (by decide)]
    rfl
  refine ⟨rfl, rfl, rfl, reports, (ours rfl .push).1, ?_⟩
  exact ⟨_, found, stage, team⟩

end Outset

end BuildAgent
