import BuildAgent.Agent.Definition
import BuildAgent.Proofs.Document.Parts
import BuildAgent.Proofs.Identifier.Grammar

/-!
# Definitions survive being written

A definition comes back from its JSON form as it was, whatever its texts, lists and numbers are and
whichever of its parts are missing. Reading is therefore settled after one pass: a document that is
read, written and read again gives the same definition (`Definition.round_trips`).

What reading does to a document is told by three more laws. A definition depends on a document only
through its own fields, so fields under other names are dropped; a field that is missing counts as
the one in `Definition.unset`; and an identifier may be spelt as people spell it, since a capacity
holds the canonical one (`Capacity.Holds`).

A field is read through one of four readers, and each of them undoes its writer. A definition is
put together from those, field by field (`Definition.IsReadFrom`).
-/

namespace BuildAgent

/-! ## Identifiers and capacities -/

/-- Whether an identifier is the one that a text spells. -/
def Identifier.IsSpeltBy {resource : Resource} (identifier : Identifier resource)
    (text : String) : Prop :=
  ∃ suffix, resource.Spells text suffix ∧ identifier.suffix = suffix.map Char.toLower

theorem Identifier.isSpeltBy_of_ofDatum? {resource : Resource} {datum : Datum}
    {identifier : Identifier resource} (held : ofDatum? resource datum = some identifier) :
    ∃ text, datum = .text text ∧ identifier.IsSpeltBy text := by
  rcases spells_of_ofDatum? held with ⟨text, written, parsed⟩
  rcases spells_of_parse parsed with ⟨suffix, spells, lower⟩
  exact ⟨text, written, suffix, spells, lower⟩

namespace Capacity

/-- Whether a capacity has the identifiers that the fields of its document spell: the request that
they must name, and the instance if they name one. -/
structure Holds (capacity : Capacity) (fields : List (String × Datum)) : Prop where
  request : ∀ {request bound}, capacity = .spot request bound →
    ∃ text, Datum.field? "spot_request_id" fields = some (.text text) ∧ request.IsSpeltBy text
  bound : ∀ {datum}, Datum.field? "instance_id" fields = some datum → datum ≠ .absent →
    ∃ text instanceId, datum = .text text ∧ capacity.bound? = some instanceId ∧
      instanceId.IsSpeltBy text
  unbound : Datum.field? "instance_id" fields = none ∨
    Datum.field? "instance_id" fields = some .absent → capacity.bound? = none

theorem ofDatum?_of_onDemand {fields : List (String × Datum)} {bound : Option InstanceId}
    (model : Datum.required? fields "type" Datum.text? = some "on_demand")
    (instanceId : Datum.optionalField? fields "instance_id" (Identifier.ofDatum? .machine) =
      some bound) : ofDatum? (.record fields) = some (.onDemand bound) := by
  simp [ofDatum?, Datum.fields?, model, instanceId]

theorem ofDatum?_of_spot {fields : List (String × Datum)} {request : SpotRequestId}
    {bound : Option InstanceId}
    (model : Datum.required? fields "type" Datum.text? = some "spot")
    (requested : Datum.required? fields "spot_request_id" (Identifier.ofDatum? .spotRequest) =
      some request)
    (instanceId : Datum.optionalField? fields "instance_id" (Identifier.ofDatum? .machine) =
      some bound) : ofDatum? (.record fields) = some (.spot request bound) := by
  simp [ofDatum?, Datum.fields?, model, requested, instanceId]

theorem ofDatum?_toDatum (capacity : Capacity) : ofDatum? capacity.toDatum = some capacity := by
  have instanceId (bound : Option InstanceId) : Datum.optional? (Identifier.ofDatum? .machine)
      (.ofOption Identifier.toDatum bound) = some bound :=
    Datum.optional?_ofOption Identifier.ofDatum?_toDatum nofun _
  cases capacity with
  | onDemand bound => exact ofDatum?_of_onDemand rfl (instanceId bound)
  | spot request bound =>
      exact ofDatum?_of_spot rfl (Identifier.ofDatum?_toDatum request) (instanceId bound)

theorem toDatum_ne_absent (capacity : Capacity) : capacity.toDatum ≠ .absent := by
  cases capacity <;> exact nofun

theorem isPlain_toDatum (capacity : Capacity) : capacity.toDatum.IsPlain := by
  have instanceId : (Datum.ofOption Identifier.toDatum capacity.bound?).IsPlain :=
    Datum.isPlain_ofOption (fun _ => .text _) capacity.bound?
  cases capacity with
  | onDemand bound =>
      apply Datum.IsPlain.record
      simp only [List.mem_cons, List.not_mem_nil, or_false]
      rintro field (rfl | rfl)
      · exact .text _
      · exact instanceId
  | spot request bound =>
      apply Datum.IsPlain.record
      simp only [List.mem_cons, List.not_mem_nil, or_false]
      rintro field (rfl | rfl | rfl)
      · exact .text _
      · exact .text _
      · exact instanceId

/-- What reading the optional field of an instance tells about the field. -/
theorem holds_of_bound {capacity : Capacity} {fields : List (String × Datum)}
    {bound : Option InstanceId}
    (read : Datum.optionalField? fields "instance_id" (Identifier.ofDatum? .machine) = some bound)
    (same : capacity.bound? = bound)
    (request : ∀ {request bound}, capacity = .spot request bound →
      ∃ text, Datum.field? "spot_request_id" fields = some (.text text) ∧
        request.IsSpeltBy text) : capacity.Holds fields := by
  subst same
  rw [Datum.optionalField?] at read
  refine ⟨request, ?_, ?_⟩
  · intro datum named present
    rw [named] at read
    simp only [Datum.optional?_of_present present, Option.map_eq_some_iff] at read
    rcases read with ⟨instanceId, held, bound⟩
    rcases Identifier.isSpeltBy_of_ofDatum? held with ⟨text, written, spelt⟩
    exact ⟨text, instanceId, written, bound.symm, spelt⟩
  · rintro (missing | absent)
    · rw [missing] at read
      exact (Option.some.inj read).symm
    · rw [absent] at read
      exact (Option.some.inj read).symm

theorem holds_of_ofDatum? {fields : List (String × Datum)} {capacity : Capacity}
    (read : ofDatum? (.record fields) = some capacity) : capacity.Holds fields := by
  rw [ofDatum?] at read
  rcases Option.bind_eq_some_iff.mp read with ⟨model, _, read⟩
  rcases Option.bind_eq_some_iff.mp read with ⟨_, same, read⟩
  cases same
  dsimp only at read
  split at read
  · rcases Option.bind_eq_some_iff.mp read with ⟨_, same, read⟩
    cases same
    rcases Option.bind_eq_some_iff.mp read with ⟨bound, found, rest⟩
    cases rest
    exact holds_of_bound found rfl nofun
  · rcases Option.bind_eq_some_iff.mp read with ⟨_, same, read⟩
    cases same
    rcases Option.bind_eq_some_iff.mp read with ⟨request, named, read⟩
    rcases Option.bind_eq_some_iff.mp read with ⟨bound, found, rest⟩
    cases rest
    apply holds_of_bound found rfl
    rintro _ _ ⟨rfl, rfl⟩
    rcases Option.bind_eq_some_iff.mp named with ⟨datum, field, held⟩
    rcases Identifier.isSpeltBy_of_ofDatum? held with ⟨text, rfl, spelt⟩
    exact ⟨text, field, spelt⟩
  · cases read

end Capacity

/-! ## The other parts -/

theorem IdleMinutes.ofDatum?_toDatum (idle : IdleMinutes) : ofDatum? idle.toDatum = some idle := by
  cases idle with
  | minutes count =>
      have within : Int64.minValue.toInt ≤ count.toInt ∧ count.toInt ≤ Int64.maxValue.toInt :=
        ⟨Int64.minValue_le_toInt count, Int64.toInt_le count⟩
      simp only [ofDatum?, toDatum, if_pos within, Int64.ofInt_toInt]
  | text written => rfl

theorem IdleMinutes.toDatum_ne_absent (idle : IdleMinutes) : idle.toDatum ≠ .absent := by
  cases idle <;> exact nofun

theorem IdleMinutes.isPlain_toDatum (idle : IdleMinutes) : idle.toDatum.IsPlain := by
  cases idle with
  | minutes count =>
      have least := Int64.minValue_le_toInt count
      have most := Int64.toInt_le count
      apply Datum.IsPlain.integer
      · exact least
      · exact Int.le_trans most (by decide)
  | text written => exact .text written

theorem Tag.ofDatum?_toDatum (tag : Tag) : ofDatum? tag.toDatum = some tag := by
  simp [ofDatum?, toDatum, Datum.fields?, Datum.required?, Datum.field?, Datum.text?]

theorem Tag.isPlain_toDatum (tag : Tag) : tag.toDatum.IsPlain := by
  apply Datum.IsPlain.record
  simp only [List.mem_cons, List.not_mem_nil, or_false]
  rintro field (rfl | rfl)
  · exact .text _
  · exact .text _

/-! ## Definitions -/

namespace Definition

def toJson (definition : Definition) : String :=
  Json.print definition.toDatum

def ofJson? (text : String) : Option Definition :=
  (Json.read text).bind ofDatum?

/-- The fields that a document need not have, as they count when it does not. -/
def unset : List (String × Datum) :=
  [("description", .text ""), ("labels", .list []), ("tags", .list [])] ++
  ["stop_on_terminate", "reboot_after_build", "long_lived_agent", "use_private_dns_name",
    "use_dedicated_tenancy"].map (·, .truth false) ++
  ["kind", "remote_fs", "num_executors", "instance_type", "init_script", "tmp_dir", "remote_admin",
    "jvm_opts", "idle_termination_minutes", "launch_timeout_secs"].map (·, .absent)

theorem toNat_le_largest32 (count : UInt32) : count.toNat ≤ Text.Decimal.largest32 :=
  Nat.le_sub_one_of_lt count.toNat_lt

theorem toNat_le_largest64 (count : UInt64) : count.toNat ≤ Text.Decimal.largest64 :=
  Nat.le_sub_one_of_lt count.toNat_lt

/-- Whether every part of a definition is what the fields of a document say about it. -/
structure IsReadFrom (definition : Definition) (fields : List (String × Datum)) : Prop where
  name : Datum.required? fields "name" Datum.text? = some definition.name
  capacity : Datum.optionalField? fields "kind" Capacity.ofDatum? = some definition.capacity
  description :
    Datum.defaultedField? fields "description" Datum.text? "" = some definition.description
  remoteRoot : Datum.optionalField? fields "remote_fs" Datum.text? = some definition.remoteRoot
  executorCount : ∃ count,
    Datum.optionalField? fields "num_executors" (Datum.natural? Text.Decimal.largest32) =
        some count ∧
      count.map UInt32.ofNat = definition.executorCount
  instanceType :
    Datum.optionalField? fields "instance_type" Datum.text? = some definition.instanceType
  labels :
    Datum.defaultedField? fields "labels" (Datum.list? Datum.text?) [] = some definition.labels
  initScript : Datum.optionalField? fields "init_script" Datum.text? = some definition.initScript
  temporaryDirectory :
    Datum.optionalField? fields "tmp_dir" Datum.text? = some definition.temporaryDirectory
  remoteAdmin :
    Datum.optionalField? fields "remote_admin" Datum.text? = some definition.remoteAdmin
  jvmOptions : Datum.optionalField? fields "jvm_opts" Datum.text? = some definition.jvmOptions
  stopOnTerminate :
    Datum.defaultedField? fields "stop_on_terminate" Datum.truth? false =
      some definition.stopOnTerminate
  rebootAfterBuild :
    Datum.defaultedField? fields "reboot_after_build" Datum.truth? false =
      some definition.rebootAfterBuild
  longLivedAgent :
    Datum.defaultedField? fields "long_lived_agent" Datum.truth? false =
      some definition.longLivedAgent
  idleMinutes :
    Datum.optionalField? fields "idle_termination_minutes" IdleMinutes.ofDatum? =
      some definition.idleMinutes
  usePrivateAddress :
    Datum.defaultedField? fields "use_private_dns_name" Datum.truth? false =
      some definition.usePrivateAddress
  useDedicatedTenancy :
    Datum.defaultedField? fields "use_dedicated_tenancy" Datum.truth? false =
      some definition.useDedicatedTenancy
  launchTimeout : ∃ seconds,
    Datum.optionalField? fields "launch_timeout_secs" (Datum.natural? Text.Decimal.largest64) =
        some seconds ∧
      seconds.map UInt64.ofNat = definition.launchTimeoutSeconds
  tags : Datum.defaultedField? fields "tags" (Datum.list? Tag.ofDatum?) [] = some definition.tags

theorem ofDatum?_of_isReadFrom {definition : Definition} {fields : List (String × Datum)}
    (read : definition.IsReadFrom fields) : ofDatum? (.record fields) = some definition := by
  rcases read.executorCount with ⟨count, counted, executors⟩
  rcases read.launchTimeout with ⟨seconds, limited, timeout⟩
  dsimp only [ofDatum?, Datum.fields?, Option.bind_eq_bind, Option.bind_some]
  rw [read.name, read.capacity, read.description, read.remoteRoot, counted, read.instanceType,
    read.labels, read.initScript, read.temporaryDirectory, read.remoteAdmin, read.jvmOptions,
    read.stopOnTerminate, read.rebootAfterBuild, read.longLivedAgent, read.idleMinutes,
    read.usePrivateAddress, read.useDedicatedTenancy, limited, read.tags]
  dsimp only [Option.bind_some]
  rw [executors, timeout]
  rfl

theorem isReadFrom_of_ofDatum? {definition : Definition} {fields : List (String × Datum)}
    (read : ofDatum? (.record fields) = some definition) : definition.IsReadFrom fields := by
  rcases Option.bind_eq_some_iff.mp read with ⟨name, named, read⟩
  rcases Option.bind_eq_some_iff.mp read with ⟨capacity, held, read⟩
  rcases Option.bind_eq_some_iff.mp read with ⟨description, described, read⟩
  rcases Option.bind_eq_some_iff.mp read with ⟨remoteRoot, rooted, read⟩
  rcases Option.bind_eq_some_iff.mp read with ⟨count, counted, read⟩
  rcases Option.bind_eq_some_iff.mp read with ⟨instanceType, typed, read⟩
  rcases Option.bind_eq_some_iff.mp read with ⟨labels, labelled, read⟩
  rcases Option.bind_eq_some_iff.mp read with ⟨initScript, begun, read⟩
  rcases Option.bind_eq_some_iff.mp read with ⟨temporaryDirectory, stored, read⟩
  rcases Option.bind_eq_some_iff.mp read with ⟨remoteAdmin, administered, read⟩
  rcases Option.bind_eq_some_iff.mp read with ⟨jvmOptions, tuned, read⟩
  rcases Option.bind_eq_some_iff.mp read with ⟨stopOnTerminate, stopped, read⟩
  rcases Option.bind_eq_some_iff.mp read with ⟨rebootAfterBuild, rebooted, read⟩
  rcases Option.bind_eq_some_iff.mp read with ⟨longLivedAgent, kept, read⟩
  rcases Option.bind_eq_some_iff.mp read with ⟨idleMinutes, idle, read⟩
  rcases Option.bind_eq_some_iff.mp read with ⟨usePrivateAddress, hidden, read⟩
  rcases Option.bind_eq_some_iff.mp read with ⟨useDedicatedTenancy, alone, read⟩
  rcases Option.bind_eq_some_iff.mp read with ⟨seconds, limited, read⟩
  rcases Option.bind_eq_some_iff.mp read with ⟨tags, tagged, read⟩
  cases read
  exact ⟨named, held, described, rooted, ⟨count, counted, rfl⟩, typed, labelled, begun, stored,
    administered, tuned, stopped, rebooted, kept, idle, hidden, alone, ⟨seconds, limited, rfl⟩,
    tagged⟩

/-- A definition is read from a document exactly when each of its parts is. -/
theorem ofDatum?_eq_some_iff {definition : Definition} {fields : List (String × Datum)} :
    ofDatum? (.record fields) = some definition ↔ definition.IsReadFrom fields :=
  ⟨isReadFrom_of_ofDatum?, ofDatum?_of_isReadFrom⟩

/-- A definition is in its document, field by field. -/
theorem ofDatum?_toDatum (definition : Definition) :
    ofDatum? definition.toDatum = some definition := by
  have executors := Datum.optional?_ofOption_map
    (fun count => Datum.natural?_integer (toNat_le_largest32 count)) nofun definition.executorCount
  have timeout := Datum.optional?_ofOption_map
    (fun seconds => Datum.natural?_integer (toNat_le_largest64 seconds)) nofun
    definition.launchTimeoutSeconds
  rw [toDatum, ofDatum?_eq_some_iff]
  exact {
    name := rfl
    capacity := Datum.optional?_ofOption Capacity.ofDatum?_toDatum Capacity.toDatum_ne_absent _
    description := rfl
    remoteRoot := Datum.optional?_ofOption_text _
    executorCount := ⟨_, executors, by simp [Function.comp_def]⟩
    instanceType := Datum.optional?_ofOption_text _
    labels := Datum.list?_map Datum.text?_text _
    initScript := Datum.optional?_ofOption_text _
    temporaryDirectory := Datum.optional?_ofOption_text _
    remoteAdmin := Datum.optional?_ofOption_text _
    jvmOptions := Datum.optional?_ofOption_text _
    stopOnTerminate := rfl
    rebootAfterBuild := rfl
    longLivedAgent := rfl
    idleMinutes :=
      Datum.optional?_ofOption IdleMinutes.ofDatum?_toDatum IdleMinutes.toDatum_ne_absent _
    usePrivateAddress := rfl
    useDedicatedTenancy := rfl
    launchTimeout := ⟨_, timeout, by simp [Function.comp_def]⟩
    tags := Datum.list?_map Tag.ofDatum?_toDatum _ }

theorem isPlain_toDatum (definition : Definition) : definition.toDatum.IsPlain := by
  have texts := Datum.isPlain_ofOption_text
  have naturals {value : Nat} (small : value ≤ Text.Decimal.largest64) :
      (Datum.integer value).IsPlain := .integer value (by omega) (by omega)
  have executors : (Datum.ofOption (fun count : UInt32 => .integer count.toNat)
      definition.executorCount).IsPlain :=
    Datum.isPlain_ofOption
      (fun count => naturals ((toNat_le_largest32 count).trans (by decide))) _
  have timeout : (Datum.ofOption (fun seconds : UInt64 => .integer seconds.toNat)
      definition.launchTimeoutSeconds).IsPlain :=
    Datum.isPlain_ofOption (fun seconds => naturals (toNat_le_largest64 seconds)) _
  apply Datum.IsPlain.record
  simp only [List.forall_mem_cons]
  exact ⟨.text _, Datum.isPlain_ofOption Capacity.isPlain_toDatum _, .text _, texts _, executors,
    texts _, Datum.isPlain_list_map .text _, texts _, texts _, texts _, texts _, .truth _, .truth _,
    .truth _, Datum.isPlain_ofOption IdleMinutes.isPlain_toDatum _, .truth _, .truth _, timeout,
    Datum.isPlain_list_map Tag.isPlain_toDatum _, nofun⟩

theorem ofJson?_toJson (definition : Definition) : ofJson? definition.toJson = some definition := by
  rw [ofJson?, toJson, Json.read_print definition.isPlain_toDatum, Option.bind_some,
    ofDatum?_toDatum]

/-! ## What reading does to a document -/

variable {fields others : List (String × Datum)}

/-- Only the fields of a definition count. -/
theorem ofDatum?_congr
    (same : ∀ name, name ∈ fieldNames → Datum.field? name fields = Datum.field? name others) :
    ofDatum? (.record fields) = ofDatum? (.record others) := by
  dsimp only [ofDatum?, Datum.fields?, Option.bind_eq_bind, Option.bind_some, Datum.required?,
    Datum.optionalField?, Datum.defaultedField?]
  rw [same "name", same "kind", same "description", same "remote_fs", same "num_executors",
    same "instance_type", same "labels", same "init_script", same "tmp_dir", same "remote_admin",
    same "jvm_opts", same "stop_on_terminate", same "reboot_after_build", same "long_lived_agent",
    same "idle_termination_minutes", same "use_private_dns_name", same "use_dedicated_tenancy",
    same "launch_timeout_secs", same "tags"] <;> decide

theorem ofDatum?_filter (fields : List (String × Datum)) :
    ofDatum? (.record (fields.filter fun field => field.1 ∈ fieldNames)) =
      ofDatum? (.record fields) :=
  ofDatum?_congr fun _ known => Datum.field?_filter known fields

/-- A field that is missing counts as it does when it is written without a value. -/
theorem ofDatum?_unset (fields : List (String × Datum)) :
    ofDatum? (.record (unset ++ fields)) = ofDatum? (.record fields) := by
  have required : Datum.required? (unset ++ fields) "name" Datum.text? =
      Datum.required? fields "name" Datum.text? :=
    Datum.required?_append rfl
  have optional {α : Type} (name : String) (read : Datum → Option α)
      (blank : Datum.field? name unset = some .absent) :
      Datum.optionalField? (unset ++ fields) name read = Datum.optionalField? fields name read :=
    Datum.optionalField?_append blank
  have defaulted {α : Type} (name : String) {written : Datum} (read : Datum → Option α)
      (default : α) (blank : Datum.field? name unset = some written)
      (reads : read written = some default) :
      Datum.defaultedField? (unset ++ fields) name read default =
        Datum.defaultedField? fields name read default :=
    Datum.defaultedField?_append blank reads
  dsimp only [ofDatum?, Datum.fields?, Option.bind_eq_bind, Option.bind_some]
  rw [required, optional "kind" _ rfl, defaulted "description" _ "" rfl rfl,
    optional "remote_fs" _ rfl, optional "num_executors" _ rfl, optional "instance_type" _ rfl,
    defaulted "labels" _ [] rfl rfl, optional "init_script" _ rfl,
    optional "tmp_dir" _ rfl, optional "remote_admin" _ rfl, optional "jvm_opts" _ rfl,
    defaulted "stop_on_terminate" _ false rfl rfl,
    defaulted "reboot_after_build" _ false rfl rfl,
    defaulted "long_lived_agent" _ false rfl rfl,
    optional "idle_termination_minutes" _ rfl,
    defaulted "use_private_dns_name" _ false rfl rfl,
    defaulted "use_dedicated_tenancy" _ false rfl rfl, optional "launch_timeout_secs" _ rfl,
    defaulted "tags" _ [] rfl rfl]

theorem capacity_of_ofDatum? {definition : Definition} {kind : List (String × Datum)}
    (read : ofDatum? (.record fields) = some definition)
    (named : Datum.field? "kind" fields = some (.record kind)) :
    ∃ capacity, definition.capacity = some capacity ∧ capacity.Holds kind := by
  have found := (isReadFrom_of_ofDatum? read).capacity
  rw [Datum.optionalField?, named] at found
  rcases Option.map_eq_some_iff.mp found with ⟨capacity, isRead, same⟩
  exact ⟨capacity, same.symm, Capacity.holds_of_ofDatum? isRead⟩

/-- **Definitions survive being written.** A definition is read back from its document and from its
JSON text as it was, so whatever a document says, what was read from it is what is read after it is
written again. Reading drops the fields under other names and gives the missing ones the values of
`unset`, and the capacity that it reads has the identifiers that its document spells, in canonical
form. -/
theorem round_trips :
    (∀ definition : Definition,
      ofDatum? definition.toDatum = some definition ∧
        ofJson? definition.toJson = some definition) ∧
    (∀ datum definition, ofDatum? datum = some definition →
      ofDatum? definition.toDatum = some definition ∧
        ofJson? definition.toJson = some definition) ∧
    (∀ text definition, ofJson? text = some definition →
      ofJson? definition.toJson = some definition) ∧
    (∀ fields : List (String × Datum),
      ofDatum? (.record (fields.filter fun field => field.1 ∈ fieldNames)) =
          ofDatum? (.record fields) ∧
        ofDatum? (.record (unset ++ fields)) = ofDatum? (.record fields)) ∧
    ∀ fields kind definition, ofDatum? (.record fields) = some definition →
      Datum.field? "kind" fields = some (.record kind) →
      ∃ capacity, definition.capacity = some capacity ∧ capacity.Holds kind := by
  refine ⟨?_, ?_, ?_, ?_, ?_⟩
  · intro definition
    exact ⟨definition.ofDatum?_toDatum, definition.ofJson?_toJson⟩
  · intro _ definition _
    exact ⟨definition.ofDatum?_toDatum, definition.ofJson?_toJson⟩
  · intro _ definition _
    exact definition.ofJson?_toJson
  · intro fields
    exact ⟨ofDatum?_filter fields, ofDatum?_unset fields⟩
  · intro fields kind definition read named
    exact capacity_of_ofDatum? read named

/-- A document with an unknown field, blanks and capitals in its identifiers, and little else. -/
def sloppy : String :=
  "\x7b\"colour\":7,\"name\":\"n\",\"idle_termination_minutes\":\" 5\"," ++
    "\"kind\":\x7b\"type\":\"spot\",\"spot_request_id\":\" sir-08B93456\"," ++
    "\"instance_id\":\"i-0DEF5678 \"\x7d\x7d"

def tidy : Definition where
  name := "n"
  capacity := some (.spot ⟨"08b93456".toList, by decide⟩ (some ⟨"0def5678".toList, by decide⟩))
  idleMinutes := some (.text " 5")

/-- It is read as a tidy definition, which is read again from its own text. -/
theorem round_trips_sloppy :
    ofJson? sloppy = some tidy ∧ ofJson? tidy.toJson = some tidy := by
  have read : ofJson? sloppy = some tidy := by decide +kernel
  exact ⟨read, round_trips.2.2.1 sloppy tidy read⟩

end Definition

end BuildAgent
