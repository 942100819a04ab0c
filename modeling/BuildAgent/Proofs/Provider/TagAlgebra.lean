import BuildAgent.Proofs.Provider.Tags
import Mathlib.Data.List.Dedup
import Mathlib.Data.List.Sort

/-!
# The algebra of pushes and clears

A batch is the one strictly ascending list with the tags that it was made of
(`Tag.batch_eq_of_mem_iff`), so all that is made of a batch depends on those tags alone, and not on
their order or on repetitions. The map of an instance is told by its lookups (`TagMap.ext_find?`).
With the two, the laws of pushes and clears are laws about one name at a time: a push decides about
its names whatever their values were, and a clear after it takes exactly those names away.
-/

namespace BuildAgent

namespace Tag

/-! ## Batches as sets of tags -/

/-- The strict order of tags. -/
def Below (left right : Tag) : Prop :=
  left.name < right.name ∨ (left.name = right.name ∧ left.value < right.value)

variable {tag other : Tag} {tags others : List Tag}

theorem Below.asymm (below : tag.Below other) : ¬other.Below tag := by
  rcases below with less | ⟨same, less⟩
  · rintro (more | ⟨equal, _⟩)
    · exact String.lt_irrefl _ (String.lt_trans less more)
    · exact String.lt_irrefl _ (equal ▸ less)
  · rintro (more | ⟨_, more⟩)
    · exact String.lt_irrefl _ (same ▸ more)
    · exact String.lt_irrefl _ (String.lt_trans less more)

theorem Below.irrefl (tag : Tag) : ¬tag.Below tag :=
  fun below => below.asymm below

instance : Std.Irrefl Below := ⟨Below.irrefl⟩

instance : Std.Antisymm Below := ⟨fun _ _ below above => absurd above below.asymm⟩

theorem below_iff : tag.Below other ↔ tag.precedes other = true ∧ tag ≠ other := by
  rw [precedes_iff]
  constructor
  · intro below
    refine ⟨below.imp_right fun ⟨same, less⟩ => ⟨same, Std.le_of_lt less⟩, ?_⟩
    rintro rfl
    exact Below.irrefl tag below
  · rintro ⟨less | ⟨same, under⟩, different⟩
    · exact .inl less
    · refine .inr ⟨same, Std.lt_of_le_of_ne under ?_⟩
      intro equal
      cases tag
      cases other
      cases same
      cases equal
      exact different rfl

theorem nodup_addToBatch (tag : Tag)
    (ordered : tags.Pairwise fun left right => left.precedes right = true)
    (distinct : tags.Nodup) : (addToBatch tag tags).Nodup := by
  induction tags with
  | nil => exact List.nodup_singleton tag
  | cons first rest hypothesis =>
    rcases List.pairwise_cons.mp ordered with ⟨above, rest_ordered⟩
    rcases List.nodup_cons.mp distinct with ⟨new, rest_distinct⟩
    simp only [addToBatch]
    split
    · exact distinct
    · rename_i different
      split
      · rename_i before
        have below : tag.Below first := below_iff.mpr ⟨before, different⟩
        refine List.nodup_cons.mpr ⟨?_, distinct⟩
        intro member
        rcases List.mem_cons.mp member with same | inside
        · exact different same
        · exact below.asymm (below_iff.mpr ⟨above tag inside, fun same => different same.symm⟩)
      · refine List.nodup_cons.mpr ⟨?_, hypothesis rest_ordered rest_distinct⟩
        intro member
        rcases mem_addToBatch.mp member with same | inside
        · exact different same.symm
        · exact new inside

/-- A batch has every tag once. -/
theorem nodup_batch (tags : List Tag) : (batch tags).Nodup := by
  induction tags with
  | nil => exact List.nodup_nil
  | cons first rest hypothesis => exact nodup_addToBatch first (pairwise_batch rest) hypothesis

theorem pairwise_below_batch (tags : List Tag) : (batch tags).Pairwise Below :=
  ((pairwise_batch tags).and (nodup_batch tags)).imp below_iff.mpr

/-- **A batch is the only ascending list of its tags.** -/
theorem batch_eq_of_mem_iff (same : ∀ tag, tag ∈ tags ↔ tag ∈ others) :
    batch tags = batch others := by
  apply (pairwise_below_batch tags).eq_of_mem_iff (pairwise_below_batch others)
  intro tag
  rw [mem_batch, mem_batch, same]

/-- A batch is as long as there are distinct tags. -/
theorem length_batch (tags : List Tag) : (batch tags).length = tags.dedup.length := by
  apply List.Perm.length_eq
  apply (List.perm_ext_iff_of_nodup (nodup_batch tags) tags.nodup_dedup).mpr
  intro tag
  rw [mem_batch, List.mem_dedup]

theorem batch_eq_nil_iff : batch tags = [] ↔ tags = [] := by
  simp only [List.eq_nil_iff_forall_not_mem, mem_batch]

end Tag

namespace TagMap

/-! ## Maps as their lookups -/

variable {left right tags other : TagMap} {batch : List Tag} {name : String}

theorem mem_iff_lookup {entries : List (String × String)} (ascending : Ascending entries)
    {entry : String × String} :
    entry ∈ entries ↔ entries.lookup entry.1 = some entry.2 := by
  induction entries with
  | nil => simp
  | cons first rest hypothesis =>
    rcases List.pairwise_cons.mp ascending with ⟨above, rest_ascending⟩
    rw [List.mem_cons, hypothesis rest_ascending, lookup_cons]
    by_cases named : entry.1 = first.1
    · rw [if_pos named, Option.some.injEq]
      constructor
      · rintro (rfl | within)
        · rfl
        · -- No later entry has the name of the first.
          have below := above entry ((hypothesis rest_ascending).mpr within)
          exact absurd (named ▸ below) (String.lt_irrefl _)
      · intro valued
        exact .inl (Prod.ext named valued.symm)
    · rw [if_neg named]
      constructor
      · rintro (rfl | within)
        · exact absurd rfl named
        · exact within
      · exact .inr

/-- **Maps with the same lookups are equal.** -/
theorem ext_find? (same : ∀ name, left.find? name = right.find? name) : left = right := by
  have members : ∀ entry, entry ∈ left.entries ↔ entry ∈ right.entries := by
    intro entry
    rw [mem_iff_lookup left.ascending, mem_iff_lookup right.ascending]
    exact Eq.congr_left (same entry.1)
  have irrefl : Std.Irrefl fun first second : String × String => first.1 < second.1 :=
    ⟨fun entry => String.lt_irrefl entry.1⟩
  have antisymm : Std.Antisymm fun first second : String × String => first.1 < second.1 :=
    ⟨fun _ _ less more => absurd (String.lt_trans less more) (String.lt_irrefl _)⟩
  have entries : left.entries = right.entries :=
    left.ascending.eq_of_mem_iff right.ascending members
  cases left
  cases right
  cases entries
  rfl

/-! ## Maps made of lookups -/

/-- The names that have a value. -/
def names (tags : TagMap) : List String :=
  tags.entries.map Prod.fst

theorem find?_of_not_mem_names (unnamed : name ∉ tags.names) : tags.find? name = none := by
  apply Option.eq_none_iff_forall_ne_some.mpr
  intro value present
  exact unnamed (List.mem_map.mpr ⟨(name, value), (mem_iff_lookup tags.ascending).mpr present, rfl⟩)

/-- Some names in ascending order, each once. -/
def sorted (names : List String) : List String :=
  (names.mergeSort fun left right => left ≤ right).dedup

theorem mem_sorted {names : List String} : name ∈ sorted names ↔ name ∈ names := by
  rw [sorted, List.mem_dedup, List.mem_mergeSort]

theorem pairwise_sorted (names : List String) :
    (sorted names).Pairwise fun left right => left < right := by
  have ordered : (names.mergeSort fun left right => left ≤ right).Pairwise fun left right =>
      decide (left ≤ right) = true :=
    List.pairwise_mergeSort (by simpa using fun _ _ _ => String.le_trans)
      (by simpa using String.le_total) names
  have distinct : (sorted names).Nodup := List.nodup_dedup _
  have both := (ordered.sublist (List.dedup_sublist _)).and distinct
  exact both.imp fun ⟨below, different⟩ => Std.lt_of_le_of_ne (by simpa using below) different

/-- The map with the given lookups of some names, and no others. -/
def tabulate (names : List String) (value? : String → Option String) : TagMap where
  entries := (sorted names).filterMap fun name => (value? name).map fun value => (name, value)
  ascending := by
    apply (pairwise_sorted names).filterMap
    rintro first second below _ firstly _ secondly
    rcases Option.map_eq_some_iff.mp firstly with ⟨_, _, rfl⟩
    rcases Option.map_eq_some_iff.mp secondly with ⟨_, _, rfl⟩
    exact below

theorem find?_tabulate (names : List String) (value? : String → Option String) (name : String) :
    (tabulate names value?).find? name = if name ∈ names then value? name else none := by
  ext value
  have entry : (name, value) ∈ (tabulate names value?).entries ↔
      name ∈ names ∧ value? name = some value := by
    simp [tabulate, mem_sorted]
  have lookup : (name, value) ∈ (tabulate names value?).entries ↔
      (tabulate names value?).find? name = some value :=
    mem_iff_lookup (tabulate names value?).ascending
  rw [← lookup, entry]
  split
  · rename_i among
    simp [among]
  · rename_i foreign
    simp [foreign]

/-- A map is told by its lookups wherever it was made. -/
theorem eq_tabulate {names : List String} {value? : String → Option String}
    (lookups : ∀ name, tags.find? name = value? name)
    (among : ∀ name, name ∉ names → value? name = none) : tags = tabulate names value? := by
  apply ext_find?
  intro name
  rw [lookups, find?_tabulate]
  split
  · rfl
  · rename_i foreign
    exact among name foreign

/-! ## Pushes and clears one after the other -/

/-- A push decides about its names, whatever their values were. -/
theorem find?_insertAll_of_named (named : ∃ tag ∈ batch, tag.name = name) :
    (tags.insertAll batch).find? name = (other.insertAll batch).find? name := by
  rcases named with ⟨tag, member, called⟩
  have among : tag ∈ batch.filter fun tag => tag.name = name :=
    List.mem_filter.mpr ⟨member, decide_eq_true called⟩
  rw [find?_insertAll, find?_insertAll, List.getLast?_eq_some_getLast (List.ne_nil_of_mem among)]
  rfl

/-- A push leaves the same if only the names of the push were changed before it. -/
theorem insertAll_eq_of_unnamed
    (same : ∀ name, (∀ tag ∈ batch, tag.name ≠ name) → tags.find? name = other.find? name) :
    tags.insertAll batch = other.insertAll batch := by
  apply ext_find?
  intro name
  by_cases named : ∃ tag ∈ batch, tag.name = name
  · exact find?_insertAll_of_named named
  · have unnamed : ∀ tag ∈ batch, tag.name ≠ name :=
      fun tag member called => named ⟨tag, member, called⟩
    rw [find?_insertAll_of_not_mem unnamed, find?_insertAll_of_not_mem unnamed, same name unnamed]

/-- **A push that is made again changes nothing.** -/
theorem insertAll_insertAll (tags : TagMap) (batch : List Tag) :
    (tags.insertAll batch).insertAll batch = tags.insertAll batch :=
  insertAll_eq_of_unnamed fun _ unnamed => find?_insertAll_of_not_mem unnamed

/-- A clear takes away the pairs of the batch, and nothing else. -/
theorem find?_eraseAll_eq_some_iff {value : String} :
    (tags.eraseAll batch).find? name = some value ↔
      tags.find? name = some value ∧ ⟨name, value⟩ ∉ batch := by
  rcases before : tags.find? name with _ | old
  · rw [find?_eraseAll_of_none before]
    simp
  · rw [find?_eraseAll before]
    constructor
    · intro still
      split at still
      · cases still
      · rename_i absent
        cases still
        exact ⟨rfl, absent⟩
    · rintro ⟨same, absent⟩
      cases same
      exact if_neg absent

theorem find?_eraseAll_eq_filter (tags : TagMap) (batch : List Tag) (name : String) :
    (tags.eraseAll batch).find? name =
      (tags.find? name).filter fun value => ⟨name, value⟩ ∉ batch := by
  ext value
  rw [find?_eraseAll_eq_some_iff, Option.filter_eq_some_iff, decide_eq_true_iff]

/-- **A clear after a push takes exactly the pushed names away.** -/
theorem find?_eraseAll_insertAll (tags : TagMap) (name : String)
    (ordered : batch.Pairwise fun left right => left.precedes right = true) :
    ((tags.insertAll batch).eraseAll batch).find? name =
      if ∃ tag ∈ batch, tag.name = name then none else tags.find? name := by
  split
  · rename_i named
    rcases find?_insertAll_of_mem ordered named with ⟨value, written, member, _⟩
    rw [find?_eraseAll written, if_pos member]
  · rename_i unnamed
    have apart : ∀ tag ∈ batch, tag.name ≠ name :=
      fun tag member called => unnamed ⟨tag, member, called⟩
    have pushed : (tags.insertAll batch).find? name = tags.find? name :=
      find?_insertAll_of_not_mem apart
    rcases before : tags.find? name with _ | value
    · exact find?_eraseAll_of_none (pushed.trans before)
    · rw [find?_eraseAll (pushed.trans before)]
      exact if_neg fun member => apart _ member rfl

/-- **A push, a clear and a push come to one push.** -/
theorem insertAll_eraseAll_insertAll
    (ordered : batch.Pairwise fun left right => left.precedes right = true) :
    ((tags.insertAll batch).eraseAll batch).insertAll batch = tags.insertAll batch := by
  apply insertAll_eq_of_unnamed
  intro name unnamed
  rw [find?_eraseAll_insertAll tags name ordered]
  exact if_neg fun ⟨tag, member, called⟩ => unnamed tag member called

end TagMap

end BuildAgent
