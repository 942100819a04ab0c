import BuildAgent.Provider.Simulation

/-!
# Tags at the provider

What a batch of tags does to the tags of an instance, name by name. A clear takes a name away if the
batch has the name with the value that it stands for (`TagMap.find?_eraseAll`), in whatever order
the batch comes. A push writes one tag after the other, so the last value that a batch gives to a
name stays; as a batch is in ascending order, that is the greatest one
(`TagMap.find?_insertAll_of_mem`). A name that is not in the batch keeps its value.
-/

namespace BuildAgent

namespace Tag

/-! ## Batches -/

variable {tag other : Tag} {tags : List Tag}

theorem precedes_iff :
    tag.precedes other = true ↔
      tag.name < other.name ∨ (tag.name = other.name ∧ tag.value ≤ other.value) := by
  simp [precedes]

theorem precedes_of_not_precedes (behind : ¬ tag.precedes other = true) :
    other.precedes tag = true := by
  rw [precedes_iff, not_or, not_and, String.not_lt, String.not_le] at behind
  rcases behind with ⟨reached, beyond⟩
  rw [precedes_iff]
  by_cases same : other.name = tag.name
  · exact .inr ⟨same, Std.le_of_lt (beyond same.symm)⟩
  · exact .inl (Std.lt_of_le_of_ne reached same)

theorem precedes_trans {third : Tag} (first : tag.precedes other = true)
    (second : other.precedes third = true) : tag.precedes third = true := by
  rw [precedes_iff] at first second ⊢
  rcases first with below | ⟨same, under⟩
  · rcases second with beneath | ⟨equal, _⟩
    · exact .inl (String.lt_trans below beneath)
    · exact .inl (equal ▸ below)
  · rw [same]
    exact second.imp_right fun ⟨equal, beyond⟩ => ⟨equal, String.le_trans under beyond⟩

theorem mem_addToBatch : tag ∈ addToBatch other tags ↔ tag = other ∨ tag ∈ tags := by
  induction tags with
  | nil => simp [addToBatch]
  | cons first rest hypothesis =>
    simp only [addToBatch]
    split
    · rename_i same
      rw [same, List.mem_cons]
      exact ⟨.inr, fun either => either.elim .inl id⟩
    · split
      · exact List.mem_cons
      · rw [List.mem_cons, hypothesis, List.mem_cons]
        exact or_left_comm

/-- A batch has the tags of the list that it was made of. -/
theorem mem_batch : tag ∈ batch tags ↔ tag ∈ tags := by
  induction tags with
  | nil => rfl
  | cons first rest hypothesis =>
    rw [List.mem_cons, ← hypothesis]
    exact mem_addToBatch

theorem pairwise_addToBatch (tag : Tag)
    (ordered : tags.Pairwise fun left right => left.precedes right = true) :
    (addToBatch tag tags).Pairwise fun left right => left.precedes right = true := by
  induction tags with
  | nil => exact List.pairwise_singleton _ tag
  | cons first rest hypothesis =>
    rcases List.pairwise_cons.mp ordered with ⟨above, rest_ordered⟩
    simp only [addToBatch]
    split
    · exact ordered
    · split
      · rename_i before
        refine List.pairwise_cons.mpr ⟨?_, ordered⟩
        intro other member
        rcases List.mem_cons.mp member with rfl | inside
        · exact before
        · exact precedes_trans before (above other inside)
      · rename_i behind
        refine List.pairwise_cons.mpr ⟨?_, hypothesis rest_ordered⟩
        intro other member
        rcases mem_addToBatch.mp member with rfl | inside
        · exact precedes_of_not_precedes behind
        · exact above other inside

/-- A batch is in ascending order. -/
theorem pairwise_batch (tags : List Tag) :
    (batch tags).Pairwise fun left right => left.precedes right = true := by
  induction tags with
  | nil => exact List.Pairwise.nil
  | cons first rest hypothesis => exact pairwise_addToBatch first hypothesis

end Tag

namespace TagMap

variable {tags : TagMap} {name value : String} {batch : List Tag}

/-! ## Single tags -/

theorem lookup_cons (entry : String × String) (entries : List (String × String)) (other : String) :
    (entry :: entries).lookup other =
      if other = entry.1 then some entry.2 else entries.lookup other := by
  rw [List.lookup_cons]
  by_cases equal : other = entry.1
  · rw [if_pos equal, beq_iff_eq.mpr equal]
  · rw [if_neg equal, beq_false_of_ne equal]

theorem lookup_insertEntry (entries : List (String × String)) (other : String) :
    (insertEntry name value entries).lookup other =
      if other = name then some value else entries.lookup other := by
  induction entries with
  | nil => exact lookup_cons (name, value) [] other
  | cons first rest hypothesis =>
    simp only [insertEntry]
    split
    · exact lookup_cons (name, value) (first :: rest) other
    · split
      · rename_i same
        rw [lookup_cons, lookup_cons, ← same]
        split <;> rfl
      · rename_i different
        rw [lookup_cons, lookup_cons, hypothesis]
        split
        · rename_i equal
          rw [equal, if_neg (Ne.symm different)]
        · rfl

theorem find?_insert (tags : TagMap) (name value other : String) :
    (tags.insert name value).find? other =
      if other = name then some value else tags.find? other :=
  lookup_insertEntry tags.entries other

theorem lookup_filter_ne (entries : List (String × String)) (other : String) :
    (entries.filter fun entry => entry.1 != name).lookup other =
      if other = name then none else entries.lookup other := by
  induction entries with
  | nil => exact (ite_self none).symm
  | cons first rest hypothesis =>
    by_cases erased : first.1 = name
    · rw [List.filter_cons_of_neg (by simpa using erased), hypothesis, lookup_cons, erased]
      split <;> rfl
    · rw [List.filter_cons_of_pos (by simpa using erased), lookup_cons, lookup_cons, hypothesis]
      split
      · rename_i equal
        rw [equal, if_neg erased]
      · rfl

theorem find?_erase (tags : TagMap) (name other : String) :
    (tags.erase name).find? other = if other = name then none else tags.find? other :=
  lookup_filter_ne tags.entries other

/-! ## Whole batches -/

theorem eraseAll_cons (tag : Tag) :
    tags.eraseAll (tag :: batch) =
      (if tags.find? tag.name = some tag.value then tags.erase tag.name else tags).eraseAll batch :=
  rfl

theorem insertAll_cons (tag : Tag) :
    tags.insertAll (tag :: batch) = (tags.insert tag.name tag.value).insertAll batch :=
  rfl

/-- What is absent stays absent in a clear. -/
theorem find?_eraseAll_of_none (absent : tags.find? name = none) :
    (tags.eraseAll batch).find? name = none := by
  induction batch generalizing tags with
  | nil => exact absent
  | cons tag rest hypothesis =>
    rw [eraseAll_cons]
    apply hypothesis
    split
    · rw [find?_erase, absent, ite_self]
    · exact absent

/-- **A clear takes away exactly the pairs of the batch.** -/
theorem find?_eraseAll (present : tags.find? name = some value) :
    (tags.eraseAll batch).find? name = if ⟨name, value⟩ ∈ batch then none else some value := by
  induction batch generalizing tags with
  | nil => exact present
  | cons tag rest hypothesis =>
    rw [eraseAll_cons]
    by_cases equal : tag = ⟨name, value⟩
    · subst equal
      rw [if_pos present, if_pos List.mem_cons_self]
      apply find?_eraseAll_of_none
      rw [find?_erase, if_pos rfl]
    · have stays : (if tags.find? tag.name = some tag.value then tags.erase tag.name
          else tags).find? name = some value := by
        split
        · rename_i matches_value
          have different : name ≠ tag.name := by
            rintro rfl
            rw [present, Option.some.injEq] at matches_value
            exact equal (by rw [matches_value])
          rw [find?_erase, if_neg different, present]
        · exact present
      rw [hypothesis stays]
      simp [List.mem_cons, Ne.symm equal]

/-- A push gives a name the last of its values in the batch, if it has one there. -/
theorem find?_insertAll (tags : TagMap) (batch : List Tag) (name : String) :
    (tags.insertAll batch).find? name =
      ((batch.filter fun tag => tag.name = name).getLast?.map Tag.value).or (tags.find? name) := by
  induction batch generalizing tags with
  | nil => rfl
  | cons tag rest hypothesis =>
    rw [insertAll_cons, hypothesis, find?_insert]
    by_cases named : tag.name = name
    · rw [List.filter_cons_of_pos (by simpa using named), List.getLast?_cons, if_pos named.symm]
      cases (rest.filter fun tag => tag.name = name).getLast? <;> rfl
    · rw [List.filter_cons_of_neg (by simpa using named), if_neg (Ne.symm named)]

/-- A push leaves the names alone that are not in the batch. -/
theorem find?_insertAll_of_not_mem (unnamed : ∀ tag ∈ batch, tag.name ≠ name) :
    (tags.insertAll batch).find? name = tags.find? name := by
  have none_named : (batch.filter fun tag => tag.name = name) = [] :=
    List.filter_eq_nil_iff.mpr fun tag member => by simpa using unnamed tag member
  rw [find?_insertAll, none_named]
  rfl

/-- **A push gives a name the greatest of its values in the batch.** -/
theorem find?_insertAll_of_mem
    (ordered : batch.Pairwise fun left right => left.precedes right = true)
    (named : ∃ tag ∈ batch, tag.name = name) :
    ∃ value, (tags.insertAll batch).find? name = some value ∧ ⟨name, value⟩ ∈ batch ∧
      ∀ tag ∈ batch, tag.name = name → tag.value ≤ value := by
  induction batch generalizing tags with
  | nil =>
    rcases named with ⟨tag, member, _⟩
    cases member
  | cons tag rest hypothesis =>
    rcases List.pairwise_cons.mp ordered with ⟨above, rest_ordered⟩
    by_cases again : ∃ other ∈ rest, other.name = name
    · rcases @hypothesis (tags.insert tag.name tag.value) rest_ordered again with
        ⟨value, written, member, greatest⟩
      refine ⟨value, written, List.mem_cons_of_mem tag member, ?_⟩
      intro other inside called
      rcases List.mem_cons.mp inside with rfl | within
      · rcases Tag.precedes_iff.mp (above ⟨name, value⟩ member) with below | ⟨_, under⟩
        · rw [called] at below
          exact absurd below (String.lt_irrefl name)
        · exact under
      · exact greatest other within called
    · have unnamed : ∀ other ∈ rest, other.name ≠ name :=
        fun other inside called => again ⟨other, inside, called⟩
      rcases named with ⟨other, inside, rfl⟩
      rcases List.mem_cons.mp inside with rfl | within
      · refine ⟨other.value, ?_, List.mem_cons_self, ?_⟩
        · rw [insertAll_cons, find?_insertAll_of_not_mem unnamed, find?_insert, if_pos rfl]
        · intro third place called
          rcases List.mem_cons.mp place with rfl | within
          · exact String.le_refl third.value
          · exact absurd called (unnamed third within)
      · exact absurd rfl (unnamed other within)

end TagMap

namespace Provider

/-! ## The instance whose tags change -/

variable {provider : Provider} {instanceId : InstanceId}

theorem instanceId_of_find? {snapshot : Snapshot}
    (found : provider.find? instanceId = some snapshot) : snapshot.instanceId = instanceId := by
  simpa using List.find?_some found

theorem find?_update (change : Snapshot → Snapshot) {snapshot : Snapshot}
    (found : provider.find? instanceId = some snapshot) :
    (provider.update instanceId change).find? instanceId =
      some { change snapshot with instanceId := snapshot.instanceId } := by
  have named := instanceId_of_find? found
  have same : ((fun other : Snapshot => decide (other.instanceId = instanceId)) ∘ fun other =>
      if other.instanceId = instanceId then { change other with instanceId := other.instanceId }
      else other) = fun other => decide (other.instanceId = instanceId) := by
    funext other
    simp only [Function.comp_apply]
    split <;> rfl
  simp only [find?] at found
  simp only [find?, update, List.find?_map, same, found, Option.map_some, named, if_true]

theorem find?_update_of_ne (change : Snapshot → Snapshot) {another : InstanceId}
    (different : another ≠ instanceId) :
    (provider.update instanceId change).find? another = provider.find? another := by
  simp only [find?, update]
  induction provider.instances with
  | nil => rfl
  | cons first rest hypothesis =>
    rw [List.map_cons, List.find?_cons, List.find?_cons, hypothesis]
    by_cases same : first.instanceId = instanceId
    · have other : ¬instanceId = another := fun equal => different equal.symm
      simp [same, other]
    · simp [same]

end Provider

end BuildAgent
