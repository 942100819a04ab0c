import BuildAgent.Document.Datum

/-!
# Tables of a TOML document

A TOML document is a sequence of statements that fill a tree of tables. A table can come to be in
three ways: a header names it, a header of a table below it implies it, or a dotted key goes through
it. How it came to be decides what may still be added to it: a table has at most one header, a
header never names a table that dotted keys made, and a dotted key adds only to tables that dotted
keys made. A value that is written in one piece, an inline table included, is closed.

`assign`, `openTable` and `openElement` are the three statements; each refuses what the rules
forbid. `fieldsOf` is the finished record.
-/

namespace BuildAgent.Toml

/-- How a table came to be. -/
inductive Origin where
  | header
  | implied
  | dotted
  deriving DecidableEq

/-- What a name stands for while a document is read. -/
inductive Entry where
  | value (datum : Datum)
  | table (origin : Origin) (entries : List (String × Entry))
  | elements (closed : List Datum) (last : List (String × Entry))

/-- The contents of a table, in the order in which the names first occur. -/
abbrev Entries := List (String × Entry)

/-- A dotted key: the names on the way, and the last name. -/
structure KeyPath where
  above : List String
  last : String

mutual

def Entry.toDatum : Entry → Datum
  | .value datum => datum
  | .table _ entries => .record (fieldsOf entries)
  | .elements closed last => .list (closed ++ [.record (fieldsOf last)])

def fieldsOf : List (String × Entry) → List (String × Datum)
  | [] => []
  | (name, entry) :: rest => (name, entry.toDatum) :: fieldsOf rest

end

/-- Gives a name another entry in place of the one it has. -/
def replace (name : String) (entry : Entry) (entries : Entries) : Entries :=
  entries.map fun (key, old) => if key = name then (key, entry) else (key, old)

def assign (value : Datum) (last : String) : List String → Entries → Option Entries
  | [], entries =>
    match entries.lookup last with
    | none => some (entries ++ [(last, .value value)])
    | some _ => none
  | name :: rest, entries =>
    match entries.lookup name with
    | none =>
      (assign value last rest []).map fun inner => entries ++ [(name, .table .dotted inner)]
    | some (.table origin inner) =>
      if origin = .header ∨ (rest = [] ∧ origin ≠ .dotted) then none
      else (assign value last rest inner).map fun inner =>
        replace name (.table origin inner) entries
    | some (.elements closed inner) =>
      if rest = [] then none
      else (assign value last rest inner).map fun inner =>
        replace name (.elements closed inner) entries
    | some (.value _) => none

/-- Changes the table at the end of a path. Tables on the way that are missing are implied; in an
array of tables the way goes through its last element. -/
def within (change : Entries → Option Entries) : List String → Entries → Option Entries
  | [], entries => change entries
  | name :: rest, entries =>
    match entries.lookup name with
    | none =>
      (within change rest []).map fun inner => entries ++ [(name, .table .implied inner)]
    | some (.table origin inner) =>
      (within change rest inner).map fun inner => replace name (.table origin inner) entries
    | some (.elements closed inner) =>
      (within change rest inner).map fun inner => replace name (.elements closed inner) entries
    | some (.value _) => none

def openTable (path : KeyPath) : Entries → Option Entries :=
  within (fun entries =>
    match entries.lookup path.last with
    | none => some (entries ++ [(path.last, .table .header [])])
    | some (.table .implied inner) => some (replace path.last (.table .header inner) entries)
    | some _ => none) path.above

/-- Opens a further element of the array of tables that a header names. -/
def openElement (path : KeyPath) : Entries → Option Entries :=
  within (fun entries =>
    match entries.lookup path.last with
    | none => some (entries ++ [(path.last, .elements [] [])])
    | some (.elements closed last) =>
      some (replace path.last (.elements (closed ++ [.record (fieldsOf last)]) []) entries)
    | some _ => none) path.above

/-- The record that the assignments of an inline table make. -/
def recordOf? (assignments : List (KeyPath × Datum)) : Option Datum := do
  let entries ← assignments.foldlM
    (fun entries assignment =>
      assign assignment.2 assignment.1.last assignment.1.above entries) []
  return .record (fieldsOf entries)

end BuildAgent.Toml
