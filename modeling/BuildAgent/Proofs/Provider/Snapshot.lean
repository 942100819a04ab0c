import BuildAgent.Proofs.Document.Parts
import BuildAgent.Proofs.Identifier.Grammar
import BuildAgent.Proofs.Time.Reading
import BuildAgent.Provider.Instance

/-!
# Snapshots survive their rendering

The rendering of a snapshot that failure messages carry is no summary: it is one line without
controls, and it is read back as the same snapshot, whatever characters the addresses and the tags
hold and whenever the instance was launched (`Snapshot.survives_rendering`). Each part of a snapshot
has a reader that undoes its writer; the tags are the part where this needs an invariant, since the
reader enters them one by one and each of them lands at the end only because they are in ascending
order (`TagMap.ofList_entries`).
-/

namespace BuildAgent

/-! ## Tags -/

namespace TagMap

theorem insertEntry_of_above {name value : String} {entries : List (String × String)}
    (above : ∀ entry, entry ∈ entries → entry.1 < name) :
    insertEntry name value entries = entries ++ [(name, value)] := by
  induction entries with
  | nil => rfl
  | cons first rest hypothesis =>
      have later : first.1 < name := above first List.mem_cons_self
      have behind : ¬name < first.1 := Std.not_gt_of_lt later
      have differs : name ≠ first.1 := (Std.ne_of_lt later).symm
      simp only [insertEntry, behind, differs, if_false, List.cons_append]
      rw [hypothesis fun entry member => above entry (List.mem_cons_of_mem first member)]

/-- Entries that come in ascending order are kept as they come. -/
theorem entries_foldl_insert {entries : List (String × String)} {tags : TagMap}
    (ascending : Ascending (tags.entries ++ entries)) :
    (entries.foldl (fun tags entry => tags.insert entry.1 entry.2) tags).entries =
      tags.entries ++ entries := by
  induction entries generalizing tags with
  | nil => simp
  | cons first rest hypothesis =>
      have above : ∀ entry, entry ∈ tags.entries → entry.1 < first.1 := fun entry member =>
        (List.pairwise_append.mp ascending).2.2 entry member first List.mem_cons_self
      have inserted : (tags.insert first.1 first.2).entries = tags.entries ++ [first] :=
        insertEntry_of_above above
      rw [List.append_cons, ← inserted] at ascending ⊢
      exact hypothesis ascending

theorem ofList_entries (tags : TagMap) : ofList tags.entries = tags := by
  rcases tags with ⟨entries, ascending⟩
  have kept := @entries_foldl_insert entries empty ascending
  simp only [ofList]
  generalize entries.foldl (fun tags entry => tags.insert entry.1 entry.2) empty = rebuilt at kept
  rcases rebuilt with ⟨rebuilt, _⟩
  cases kept
  rfl

theorem ofDatum?_toDatum (tags : TagMap) : ofDatum? tags.toDatum = some tags := by
  have entries : (tags.entries.map fun entry => (entry.1, Datum.text entry.2)).mapM entryOfField? =
      some tags.entries := by
    induction tags.entries with
    | nil => rfl
    | cons first rest hypothesis => simp [entryOfField?, Datum.text?, hypothesis]
  have rebuilt := congrArg (Option.map ofList) entries
  rw [Option.map_some, ofList_entries] at rebuilt
  exact rebuilt

theorem isPlain_toDatum (tags : TagMap) : tags.toDatum.IsPlain := by
  apply Datum.IsPlain.record
  intro field member
  rcases List.mem_map.mp member with ⟨_, _, rfl⟩
  exact .text _

end TagMap

/-! ## The other parts -/

theorem InstanceState.ofName?_name (state : InstanceState) : ofName? state.name = some state := by
  cases state <;> decide

theorem Time.Timestamp.read?_print (time : Timestamp) : read? time.print = some time := by
  rw [read?, print, String.toList_ofList, read_write]

/-! ## Snapshots -/

namespace Snapshot

theorem isPlain_toDatum (snapshot : Snapshot) : snapshot.toDatum.IsPlain := by
  apply Datum.IsPlain.record
  simp only [List.mem_cons, List.not_mem_nil, or_false]
  rintro field (rfl | rfl | rfl | rfl | rfl | rfl)
  · exact .text _
  · exact .text _
  · exact Datum.isPlain_ofOption_text _
  · exact Datum.isPlain_ofOption_text _
  · exact .text _
  · exact snapshot.tags.isPlain_toDatum

/-- A snapshot is in its document, part by part. -/
theorem ofDatum?_toDatum (snapshot : Snapshot) : ofDatum? snapshot.toDatum = some snapshot := by
  simp [ofDatum?, toDatum, Datum.fields?, Datum.required?, Datum.optionalField?,
    Datum.defaultedField?, Datum.field?, Datum.text?, Identifier.ofDatum?_toDatum,
    InstanceState.ofDatum?, InstanceState.ofName?_name, Datum.optional?_ofOption_text,
    Time.Timestamp.read?_print, TagMap.ofDatum?_toDatum]

/-- **A snapshot survives its rendering**: the text that stands for it is one line without controls,
and the snapshot is read back from it. -/
theorem survives_rendering (snapshot : Snapshot) :
    Json.Printable snapshot.diagnostic.toList ∧ read? snapshot.diagnostic = some snapshot := by
  constructor
  · rw [diagnostic, Json.print, String.toList_ofList]
    exact Json.printable_write snapshot.isPlain_toDatum
  · rw [read?, diagnostic, Json.read_print snapshot.isPlain_toDatum, Option.bind_some,
      ofDatum?_toDatum]

/-- An instance with a quote, a backslash and controls in its texts, launched within a leap second
of a year with five digits. -/
def awkward : Snapshot where
  instanceId := ⟨"0abc1234".toList, by decide⟩
  state := .shuttingDown
  publicDns := none
  privateAddress := some "a\"\\\n\u0001"
  launchTime := ⟨⟨12345, 6, 30, by decide⟩, 86399, 1500000000, by decide⟩
  tags := .ofList [("name", "é"), ("", "\t")]

/-- Its rendering, in which nothing is lost. -/
theorem survives_rendering_awkward :
    awkward.diagnostic = "\x7b\"instance_id\":\"i-0abc1234\",\"state\":\"shutting-down\"," ++
      "\"public_dns\":null,\"private_ip\":\"a\\\"\\\\\\n\\u0001\"," ++
      "\"launch_time\":\"+12345-06-30T23:59:60.500Z\"," ++
      "\"tags\":\x7b\"\":\"\\t\",\"name\":\"é\"\x7d\x7d" ∧
      read? awkward.diagnostic = some awkward := by
  refine ⟨?_, awkward.survives_rendering.2⟩
  decide +kernel

end Snapshot

end BuildAgent
