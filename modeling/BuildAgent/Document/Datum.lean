/-!
# Data in documents

Settings, definitions and provider records reach the agent as documents in JSON or in TOML. Both
formats hold the same kind of tree, a `Datum`, so every reader in the library is written once over
`Datum`. A record keeps its fields as they were written; where a name occurs twice the last one
counts (`field?`). Fractional numbers and calendar dates can stand in a document, but no reader
takes one, so only their text is kept.
-/

namespace BuildAgent

/-- A self-describing value, as documents hold it. -/
inductive Datum where
  | absent
  | truth (value : Bool)
  | integer (value : Int)
  | fraction (literal : String)
  | moment (literal : String)
  | text (value : String)
  | list (items : List Datum)
  | record (fields : List (String × Datum))
  deriving Inhabited

namespace Datum

/-- The last value that the fields give to a name. -/
def field? (name : String) : List (String × Datum) → Option Datum
  | [] => none
  | (key, value) :: rest =>
    match field? name rest with
    | some later => some later
    | none => if key = name then some value else none

def text? : Datum → Option String
  | .text value => some value
  | _ => none

def truth? : Datum → Option Bool
  | .truth value => some value
  | _ => none

def integer? (low high : Int) : Datum → Option Int
  | .integer value => if low ≤ value ∧ value ≤ high then some value else none
  | _ => none

def natural? (bound : Nat) (datum : Datum) : Option Nat :=
  (datum.integer? 0 bound).map Int.toNat

def list? {α : Type} (read : Datum → Option α) : Datum → Option (List α)
  | .list items => items.mapM read
  | _ => none

def optional? {α : Type} (read : Datum → Option α) : Datum → Option (Option α)
  | .absent => some none
  | datum => (read datum).map some

def required? {α : Type} (fields : List (String × Datum)) (name : String)
    (read : Datum → Option α) : Option α :=
  (field? name fields).bind read

def optionalField? {α : Type} (fields : List (String × Datum)) (name : String)
    (read : Datum → Option α) : Option (Option α) :=
  match field? name fields with
  | none => some none
  | some datum => datum.optional? read

/-- A field that has a value of its own when it is missing. -/
def defaultedField? {α : Type} (fields : List (String × Datum)) (name : String)
    (read : Datum → Option α) (default : α) : Option α :=
  match field? name fields with
  | none => some default
  | some datum => read datum

/-- An optional value, written as absent where there is none. -/
def ofOption {α : Type} (write : α → Datum) : Option α → Datum
  | none => .absent
  | some value => write value

/-- The fields of a record. A list gives the same fields by position: its items take the names in
order, at least `least` of them and no more than there are names. -/
def fields? (names : List String) (least : Nat) : Datum → Option (List (String × Datum))
  | .record fields => some fields
  | .list items =>
    if least ≤ items.length ∧ items.length ≤ names.length then some (names.zip items) else none
  | _ => none

end Datum

end BuildAgent
