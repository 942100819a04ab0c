import BuildAgent.Document.Datum

/-!
# Tags

A tag is a pair of a name and a value. The provider keeps at most one value for a name, in a
`TagMap`, whose entries are in ascending order of name: `find?` looks a name up, `insert` writes and
`erase` removes. An agent
carries a list of tags, in which pairs and names may repeat; `Tag.batch` is the form in which such
a list is sent to the provider, every pair once and in ascending order.
-/

namespace BuildAgent

/-- A name and the value it has. -/
structure Tag where
  name : String
  value : String
  deriving DecidableEq, Repr

namespace Tag

/-- The order of tags: by name, and by value where the names agree. -/
def precedes (left right : Tag) : Bool :=
  left.name < right.name || (left.name = right.name && left.value ≤ right.value)

/-- Adds a tag to a batch, unless it is there already. -/
def addToBatch (tag : Tag) : List Tag → List Tag
  | [] => [tag]
  | first :: rest =>
    if tag = first then first :: rest
    else if tag.precedes first then tag :: first :: rest
    else first :: addToBatch tag rest

/-- The distinct tags of a list in ascending order. -/
def batch (tags : List Tag) : List Tag :=
  tags.foldr addToBatch []

def ofDatum? (datum : Datum) : Option Tag := do
  let fields ← datum.fields? ["name", "value"] 2
  let name ← Datum.required? fields "name" Datum.text?
  let value ← Datum.required? fields "value" Datum.text?
  return ⟨name, value⟩

def toDatum (tag : Tag) : Datum :=
  .record [("name", .text tag.name), ("value", .text tag.value)]

end Tag

def Ascending (entries : List (String × String)) : Prop :=
  entries.Pairwise fun left right => left.1 < right.1

/-- The tags that the provider keeps for an instance. -/
structure TagMap where
  entries : List (String × String)
  ascending : Ascending entries
  deriving DecidableEq

namespace TagMap

def insertEntry (name value : String) : List (String × String) → List (String × String)
  | [] => [(name, value)]
  | (key, old) :: rest =>
    if name < key then (name, value) :: (key, old) :: rest
    else if name = key then (name, value) :: rest
    else (key, old) :: insertEntry name value rest

/-- The names after a write are the names before it and the one written. -/
theorem mem_insertEntry {name value : String} {entries : List (String × String)}
    {entry : String × String} (member : entry ∈ insertEntry name value entries) :
    entry = (name, value) ∨ entry ∈ entries := by
  induction entries with
  | nil => simpa [insertEntry] using member
  | cons first rest hypothesis =>
    simp only [insertEntry] at member
    split at member
    · simpa using member
    · split at member
      · rcases List.mem_cons.mp member with equal | inside
        · exact .inl equal
        · exact .inr (List.mem_cons_of_mem first inside)
      · rcases List.mem_cons.mp member with equal | inside
        · exact .inr (equal ▸ List.mem_cons_self)
        · exact (hypothesis inside).imp_right (List.mem_cons_of_mem first)

theorem ascending_insertEntry (name value : String) {entries : List (String × String)}
    (ascending : Ascending entries) : Ascending (insertEntry name value entries) := by
  induction entries with
  | nil => simp [insertEntry, Ascending]
  | cons first rest hypothesis =>
    obtain ⟨above, rest_ascending⟩ := List.pairwise_cons.mp ascending
    simp only [insertEntry]
    split
    · rename_i below
      refine List.pairwise_cons.mpr ⟨fun entry member => ?_, ascending⟩
      rcases List.mem_cons.mp member with equal | inside
      · exact equal ▸ below
      · exact String.lt_trans below (above entry inside)
    · split
      · rename_i equal
        exact List.pairwise_cons.mpr ⟨fun entry member => equal ▸ above entry member,
          rest_ascending⟩
      · rename_i not_below not_equal
        refine List.pairwise_cons.mpr ⟨fun entry member => ?_, hypothesis rest_ascending⟩
        rcases mem_insertEntry member with equal | inside
        · rw [equal]
          exact Std.lt_of_le_of_ne (String.not_lt.mp not_below) (Ne.symm not_equal)
        · exact above entry inside

def empty : TagMap := ⟨[], List.Pairwise.nil⟩

def find? (tags : TagMap) (name : String) : Option String :=
  tags.entries.lookup name

/-- Gives a name a value, in place of the one it may have. -/
def insert (tags : TagMap) (name value : String) : TagMap :=
  ⟨insertEntry name value tags.entries, ascending_insertEntry name value tags.ascending⟩

def erase (tags : TagMap) (name : String) : TagMap :=
  ⟨tags.entries.filter fun entry => entry.1 != name, tags.ascending.filter _⟩

/-- The map that gives each name the last of its values. -/
def ofList (entries : List (String × String)) : TagMap :=
  entries.foldl (fun tags entry => tags.insert entry.1 entry.2) empty

def insertAll (tags : TagMap) (batch : List Tag) : TagMap :=
  batch.foldl (fun tags tag => tags.insert tag.name tag.value) tags

/-- Removes each tag of a list whose name still has the tag's value. -/
def eraseAll (tags : TagMap) (batch : List Tag) : TagMap :=
  batch.foldl
    (fun tags tag => if tags.find? tag.name = some tag.value then tags.erase tag.name else tags)
    tags

def entryOfField? (field : String × Datum) : Option (String × String) :=
  field.2.text?.map fun value => (field.1, value)

/-- The map that a document holds as a record of texts. -/
def ofDatum? : Datum → Option TagMap
  | .record fields => (fields.mapM entryOfField?).map ofList
  | _ => none

def toDatum (tags : TagMap) : Datum :=
  .record (tags.entries.map fun (name, value) => (name, .text value))

end TagMap

end BuildAgent
