import BuildAgent.Proofs.Document.Json

/-!
# Parts and fields of a document

A record is read field by field, and each field through a reader that says what it makes of a field
that is missing. Each of these readers undoes its writer (`Datum.optional?_ofOption`,
`Datum.list?_map`, `Datum.natural?_integer`).

A reader sees of a record only what `Datum.field?` finds: the last field of a name. So fields under
other names do not count (`Datum.field?_filter`), and fields that come first count only where no
later one has their name (`Datum.field?_append`).
-/

namespace BuildAgent

namespace Datum

variable {α : Type} {read : Datum → Option α} {write : α → Datum}

/-! ## Parts of a document -/

theorem optional?_of_present {datum : Datum} (present : datum ≠ .absent) :
    optional? read datum = (read datum).map some := by
  cases datum with
  | absent => exact absurd rfl present
  | _ => rfl

/-- An optional part is read as what its reader makes of it, as long as nothing that is there is
written as absent. -/
theorem optional?_ofOption_map {β : Type} {reads : Datum → Option β} {back : α → β}
    (undone : ∀ value, reads (write value) = some (back value))
    (present : ∀ value, write value ≠ .absent) (value : Option α) :
    optional? reads (ofOption write value) = some (value.map back) := by
  cases value with
  | none => rfl
  | some value =>
      rw [ofOption, optional?_of_present (present value), undone]
      rfl

theorem optional?_ofOption (undone : ∀ value, read (write value) = some value)
    (present : ∀ value, write value ≠ .absent) (value : Option α) :
    optional? read (ofOption write value) = some value := by
  rw [optional?_ofOption_map undone present, Option.map_id']

theorem isPlain_ofOption (plain : ∀ value, (write value).IsPlain) (value : Option α) :
    (ofOption write value).IsPlain := by
  cases value with
  | none => exact .absent
  | some value => exact plain value

theorem text?_text (value : String) : text? (.text value) = some value :=
  rfl

theorem optional?_ofOption_text (value : Option String) :
    optional? text? (ofOption text value) = some value :=
  optional?_ofOption text?_text nofun value

theorem isPlain_ofOption_text (value : Option String) : (ofOption text value).IsPlain :=
  isPlain_ofOption .text value

theorem list?_map (undone : ∀ value, read (write value) = some value) (items : List α) :
    list? read (.list (items.map write)) = some items := by
  rw [list?]
  induction items with
  | nil => rfl
  | cons first rest hypothesis => simp [undone, hypothesis]

theorem isPlain_list_map (plain : ∀ value, (write value).IsPlain) (items : List α) :
    IsPlain (.list (items.map write)) := by
  apply IsPlain.list
  intro item member
  rcases List.mem_map.mp member with ⟨value, _, rfl⟩
  exact plain value

theorem natural?_integer {bound value : Nat} (small : value ≤ bound) :
    natural? bound (.integer value) = some value := by
  have within : (0 : Int) ≤ value ∧ (value : Int) ≤ bound := by omega
  simp only [natural?, integer?, if_pos within, Option.map_some, Int.toNat_natCast]

/-! ## Fields of a record -/

variable {name : String} {fields blanks : List (String × Datum)}

theorem field?_append (name : String) (earlier later : List (String × Datum)) :
    field? name (earlier ++ later) = (field? name later).or (field? name earlier) := by
  induction earlier with
  | nil => simp [field?]
  | cons first rest hypothesis =>
      simp only [List.cons_append, field?, hypothesis]
      cases field? name later <;> rfl

/-- Fields under other names do not count. -/
theorem field?_filter {names : List String} (known : name ∈ names)
    (fields : List (String × Datum)) :
    field? name (fields.filter fun field => field.1 ∈ names) = field? name fields := by
  induction fields with
  | nil => rfl
  | cons first rest hypothesis =>
      by_cases kept : first.1 ∈ names
      · rw [List.filter_cons_of_pos (by simpa using kept), field?, field?, hypothesis]
      · have other : first.1 ≠ name := by
          rintro rfl
          exact kept known
        rw [List.filter_cons_of_neg (by simpa using kept), field?, hypothesis, if_neg other]
        cases field? name rest <;> rfl

theorem required?_append (missing : field? name blanks = none) :
    required? (blanks ++ fields) name read = required? fields name read := by
  rw [required?, required?, field?_append, missing, Option.or_none]

theorem optionalField?_append (blank : field? name blanks = some .absent) :
    optionalField? (blanks ++ fields) name read = optionalField? fields name read := by
  rw [optionalField?, optionalField?, field?_append, blank]
  cases field? name fields <;> rfl

theorem defaultedField?_append {written : Datum} {default : α}
    (blank : field? name blanks = some written) (reads : read written = some default) :
    defaultedField? (blanks ++ fields) name read default =
      defaultedField? fields name read default := by
  rw [defaultedField?, defaultedField?, field?_append, blank]
  cases field? name fields with
  | none => exact reads
  | some datum => rfl

end Datum

end BuildAgent
