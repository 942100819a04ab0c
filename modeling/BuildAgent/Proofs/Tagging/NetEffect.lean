import BuildAgent.Proofs.Tagging.AllOrNothing

/-!
# What a reconfiguration makes of an instance's tags

A complete reconfiguration is a clear with the old tags and a push with the new ones
(`World.tagsOf_reconfigured`), so for each name the provider's tags after it follow from the old
tags, the new tags and the provider's tags before it: the new definition decides the names that it
has, the old one takes away what it had given, and all else stays
(`Outset.reconfigured_tags`). Whether one of the two lists is empty makes no difference.
-/

namespace BuildAgent

namespace World

variable {world other : World} {instanceId : InstanceId} {snapshot : Snapshot}

theorem tagsOf_of_unrecorded (alike : world.unrecorded = other.unrecorded)
    (instanceId : InstanceId) :
    world.provider.tagsOf instanceId = other.provider.tagsOf instanceId := by
  rw [Provider.tagsOf, Provider.tagsOf, find?_of_unrecorded alike]

theorem find?_retag (change : TagChange) (batch : List Tag)
    (found : world.provider.find? instanceId = some snapshot) :
    (world.retag change instanceId batch).provider.find? instanceId =
      some { snapshot with tags := Provider.changed change batch snapshot.tags } :=
  Provider.find?_update _ found

/-- A change of an instance's tags leaves the other instances as they are. -/
theorem find?_retag_of_ne (change : TagChange) (batch : List Tag) (world : World)
    {another : InstanceId} (different : another ≠ instanceId) :
    (world.retag change instanceId batch).provider.find? another =
      world.provider.find? another :=
  Provider.find?_update_of_ne _ different

/-- A complete reconfiguration clears the old tags and pushes the new ones. -/
theorem tagsOf_reconfigured (definition : Definition)
    (bound : world.node.capacity.bound? = some instanceId)
    (found : world.provider.find? instanceId = some snapshot) :
    (world.reconfigured definition).provider.tagsOf instanceId =
      ((world.provider.tagsOf instanceId).eraseAll
        (Tag.batch world.node.definition.tags)).insertAll (Tag.batch definition.tags) := by
  have bound_redefined : (world.redefined definition).node.capacity.bound? = some instanceId := by
    rw [node_redefined]
    exact bound
  have cleared := find?_retag .clear (Tag.batch world.node.definition.tags) found
  have redefined : (world.redefined definition).provider.find? instanceId =
      some { snapshot with
        tags := snapshot.tags.eraseAll (Tag.batch world.node.definition.tags) } := by
    simp only [World.redefined, SyncPoint.effect, bound]
    exact cleared
  have pushed := find?_retag .push (Tag.batch definition.tags) redefined
  simp only [reconfigured, SyncPoint.effect, bound_redefined, Provider.tagsOf, found]
  rw [pushed]
  rfl

theorem find?_reconfigured_of_ne (definition : Definition) {another : InstanceId}
    (bound : world.node.capacity.bound? = some instanceId) (different : another ≠ instanceId) :
    (world.reconfigured definition).provider.find? another = world.provider.find? another := by
  have bound_redefined : (world.redefined definition).node.capacity.bound? = some instanceId := by
    rw [node_redefined]
    exact bound
  have redefined : (world.redefined definition).provider.find? another =
      world.provider.find? another := by
    simp only [World.redefined, SyncPoint.effect, bound]
    exact find?_retag_of_ne .clear _ world different
  simp only [reconfigured, SyncPoint.effect, bound_redefined]
  rw [find?_retag_of_ne .push _ _ different, redefined]

end World

/-- Whether a failure waits for none of the calls that a reconfiguration makes. -/
def Provider.Injection.SparesTags (failure : Provider.Injection) : Prop :=
  failure.operation ≠ .describe ∧ failure.operation ≠ .deleteTags ∧
    failure.operation ≠ .createTags

theorem SyncPoint.Hinders.not_sparesTags {change : TagChange} {tags : List Tag} {world : World}
    {failure : Provider.Injection} (hinders : Hinders change tags world failure) :
    ¬failure.SparesTags := by
  rintro ⟨noDescribe, noDelete, noCreate⟩
  rcases hinders.bound with ⟨_, _, describes | ⟨changes, _⟩⟩
  · exact noDescribe describes
  · cases change with
    | clear => exact noDelete changes
    | push => exact noCreate changes

theorem ReconfigurePoint.Comes.complete_of_spared {definition : Definition}
    {failures : List Provider.Injection} {world after : World} {outcome : Except Refusal Unit}
    (comes : Comes definition failures world outcome after)
    (spared : ∀ failure ∈ failures, failure.SparesTags) :
    outcome = .ok () ∧ after.unrecorded = (world.reconfigured definition).unrecorded := by
  cases comes with
  | stopped among hinders => exact absurd (spared _ among) hinders.not_sparesTags
  | halfway among hinders => exact absurd (spared _ among) hinders.not_sparesTags
  | complete alike => exact ⟨rfl, alike⟩

namespace TagMap

variable {old new : List Tag} {tags : TagMap} {name : String}

/-- The new list decides about the names that it has. -/
theorem find?_insertAll_batch (named : ∃ tag ∈ new, tag.name = name) :
    ∃ value, (tags.insertAll (Tag.batch new)).find? name = some value ∧ ⟨name, value⟩ ∈ new ∧
      ∀ tag ∈ new, tag.name = name → tag.value ≤ value := by
  have within : ∃ tag ∈ Tag.batch new, tag.name = name := by
    rcases named with ⟨tag, member, called⟩
    exact ⟨tag, Tag.mem_batch.mpr member, called⟩
  rcases find?_insertAll_of_mem (Tag.pairwise_batch new) within with
    ⟨value, written, member, greatest⟩
  refine ⟨value, written, Tag.mem_batch.mp member, ?_⟩
  intro tag inside
  exact greatest tag (Tag.mem_batch.mpr inside)

theorem find?_insertAll_batch_of_not_mem (unnamed : ∀ tag ∈ new, tag.name ≠ name) :
    (tags.insertAll (Tag.batch new)).find? name = tags.find? name :=
  find?_insertAll_of_not_mem fun tag member => unnamed tag (Tag.mem_batch.mp member)

theorem find?_eraseAll_batch {value : String} (present : tags.find? name = some value) :
    (tags.eraseAll (Tag.batch old)).find? name =
      if ⟨name, value⟩ ∈ old then none else some value := by
  simp only [find?_eraseAll present, Tag.mem_batch]

end TagMap

namespace Outset

/-- **What a reconfiguration without errors makes of the tags.** In any state that can be reached
in which the provider shows the instance, with any tags: a reconfiguration that nothing interrupts
and that meets no failure succeeds. It gives a name of the new definition the greatest value that
the definition has for it. Any other name loses its value if the old definition has it with that
value, and keeps it otherwise. The other instances keep their tags. -/
theorem reconfigured_tags (outset : Outset) (moves : List Move) (definition : Definition)
    (pattern : List (List Provider.Injection)) {instanceId : InstanceId} {snapshot : Snapshot}
    (held : (outset.execution.run moves).world.node.held = true)
    (definitionFree : (outset.execution.run moves).isFree .definition = true)
    (cacheFree : (outset.execution.run moves).isFree .cache = true)
    (enough : 8 ≤ pattern.length)
    (spared : ∀ failure ∈ (outset.execution.run moves).world.threats pattern, failure.SparesTags)
    (bound : (outset.execution.run moves).world.node.capacity.bound? = some instanceId)
    (found : (outset.execution.run moves).world.provider.find? instanceId = some snapshot) :
    let before := outset.execution.run moves
    let call := before.trial (.reconfigure definition) pattern
    let old := before.world.node.definition.tags
    let tags := before.world.provider.tagsOf instanceId
    let changed := call.after.world.provider.tagsOf instanceId
    call.answer? = some (.reconfigured (.ok ())) ∧
      (∀ name, (∃ tag ∈ definition.tags, tag.name = name) →
        ∃ value, changed.find? name = some value ∧ ⟨name, value⟩ ∈ definition.tags ∧
          ∀ tag ∈ definition.tags, tag.name = name → tag.value ≤ value) ∧
      (∀ name, (∀ tag ∈ definition.tags, tag.name ≠ name) →
        (∀ value, tags.find? name = some value →
          changed.find? name = if ⟨name, value⟩ ∈ old then none else some value) ∧
        (tags.find? name = none → changed.find? name = none)) ∧
      ∀ another, another ≠ instanceId →
        call.after.world.provider.find? another = before.world.provider.find? another := by
  intro before call old tags changed
  have accessible : before.Accessible :=
    ⟨(outset.sound_run moves).orderly, held, definitionFree, cacheFree⟩
  rcases Execution.exists_parts accessible definition enough with ⟨_, _, outcome, after, parts⟩
  rcases parts.comes.complete_of_spared spared with ⟨granted, alike⟩
  have reached : call.after.world = after := congrArg Execution.world parts.ends
  have changed_eq : changed =
      (tags.eraseAll (Tag.batch old)).insertAll (Tag.batch definition.tags) := by
    simp only [changed, reached]
    rw [World.tagsOf_of_unrecorded alike, World.tagsOf_reconfigured definition bound found]
  refine ⟨granted ▸ parts.call, ?_, ?_, ?_⟩
  · intro name named
    rw [changed_eq]
    exact TagMap.find?_insertAll_batch named
  · intro name unnamed
    rw [changed_eq, TagMap.find?_insertAll_batch_of_not_mem unnamed]
    exact ⟨fun value present => TagMap.find?_eraseAll_batch present,
      fun absent => TagMap.find?_eraseAll_of_none absent⟩
  · intro another different
    rw [reached, World.find?_of_unrecorded alike]
    exact World.find?_reconfigured_of_ne definition bound different

/-- Somebody has pushed the team of the definition, but another stage. -/
def retagged : Execution :=
  (tagged [⟨"team", "core"⟩, ⟨"stage", "test"⟩]).execution.run
    [.happen (.changeTags .push someInstance [⟨"team", "core"⟩, ⟨"stage", "live"⟩])]

/-- The team is dropped, the stage that somebody set stays, and of two zones the greater is
pushed. -/
theorem reconfigured_tags_retagged :
    let call := retagged.trial (.reconfigure
      { name := "node", tags := [⟨"zone", "b"⟩, ⟨"zone", "a"⟩] }) (List.replicate 8 [])
    let changed := call.after.world.provider.tagsOf someInstance
    retagged.isFree .definition = true ∧ retagged.isFree .cache = true ∧
      call.answer? = some (.reconfigured (.ok ())) ∧ changed.find? "zone" = some "b" ∧
      changed.find? "team" = none ∧ changed.find? "stage" = some "live" := by
  rcases (tagged [⟨"team", "core"⟩, ⟨"stage", "test"⟩]).reconfigured_tags
    [.happen (.changeTags .push someInstance [⟨"team", "core"⟩, ⟨"stage", "live"⟩])]
    { name := "node", tags := [⟨"zone", "b"⟩, ⟨"zone", "a"⟩] } (List.replicate 8 [])
    rfl rfl rfl (by decide) nofun rfl rfl with ⟨answered, named, unnamed, _⟩
  rcases named "zone" ⟨⟨"zone", "b"⟩, by decide, rfl⟩ with ⟨value, written, member, greatest⟩
  have greater : value = "b" := by
    have above := greatest ⟨"zone", "b"⟩ (by decide) rfl
    simp only [List.mem_cons, Tag.mk.injEq, true_and, List.not_mem_nil, or_false] at member
    rcases member with rfl | rfl
    · rfl
    · exact absurd above (by decide)
  have dropped := (unnamed "team" (by decide)).1 "core" rfl
  have kept := (unnamed "stage" (by decide)).1 "live" rfl
  subst greater
  refine ⟨rfl, rfl, answered, written, ?_, ?_⟩
  · exact dropped.trans (if_pos (by decide))
  · exact kept.trans (if_neg (by decide))

end Outset

end BuildAgent
