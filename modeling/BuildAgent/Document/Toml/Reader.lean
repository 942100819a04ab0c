import BuildAgent.Document.Toml.Scalar
import BuildAgent.Document.Toml.Table
import BuildAgent.Document.Toml.Text

/-!
# Reading TOML

A document is read statement by statement, each of which changes the tree of tables. Values may
be nested to a depth of eighty. As in JSON, a fuel argument that the length of the text covers
bounds the recursion, and `read` supplies it.
-/

namespace BuildAgent.Toml

/-- The text from its first character on that is not a blank. -/
def skipBlank (text : List Char) : List Char :=
  text.dropWhile fun character => character == ' ' || character == '\t'

/-- The text from its first character on that is neither blank, line break nor comment. -/
def skipLines (inComment : Bool) : List Char → Option (List Char)
  | [] => some []
  | '\r' :: rest =>
    match rest with
    | '\n' :: rest => skipLines false rest
    | _ => none
  | character :: rest =>
    if character = '\n' then skipLines false rest
    else if inComment then if isPlain character then skipLines true rest else none
    else if character = ' ' ∨ character = '\t' then skipLines false rest
    else if character = '#' then skipLines true rest
    else some (character :: rest)

/-- The text after a statement: only blanks and a comment may share its line. -/
def lineEnd? (text : List Char) : Option (List Char) :=
  match skipBlank text with
  | [] => some []
  | '\n' :: rest => some rest
  | '\r' :: '\n' :: rest => some rest
  | '#' :: rest => some ('#' :: rest)
  | _ => none

/-- Whether a character may stand in a name without quotation marks. -/
def isBare (character : Char) : Bool :=
  character.isAlphanum || character == '_' || character == '-'

def name? (text : List Char) : Option (String × List Char) :=
  match text with
  | [] => none
  | character :: _ =>
    if character = '"' ∨ character = '\'' then
      (shortText? text).map fun (name, rest) => (String.ofList name, rest)
    else
      match text.span isBare with
      | ([], _) => none
      | (name, rest) => some (String.ofList name, rest)

def keyPath? : Nat → List Char → Option (KeyPath × List Char)
  | 0, _ => none
  | fuel + 1, text => do
    let (name, rest) ← name? text
    match skipBlank rest with
    | '.' :: rest =>
      let (path, rest) ← keyPath? fuel (skipBlank rest)
      return (⟨name :: path.above, path.last⟩, rest)
    | rest => return (⟨[], name⟩, rest)

def isScalarPart (character : Char) : Bool :=
  isBare character || character == '+' || character == '.' || character == ':'

/-- A bare value. A date may be followed by one blank and a time. -/
def bareValue? (text : List Char) : Option (Datum × List Char) :=
  let (word, rest) := text.span isScalarPart
  match rest with
  | ' ' :: first :: others =>
    if date? word = some [] ∧ first.isDigit then
      let (time, rest) := (first :: others).span isScalarPart
      (scalar? (word ++ ' ' :: time)).map fun datum => (datum, rest)
    else (scalar? word).map fun datum => (datum, rest)
  | _ => (scalar? word).map fun datum => (datum, rest)

/-- The number of lists and inline tables that may lie inside one another. -/
def deepest : Nat := 80

mutual

/-- A value; `depth` counts the lists and inline tables around it. -/
def value? : Nat → Nat → List Char → Option (Datum × List Char)
  | 0, _, _ => none
  | fuel + 1, depth, text =>
    match text with
    | '[' :: rest =>
      if depth < deepest then
        (items? fuel (depth + 1) rest).map fun (items, rest) => (.list items, rest)
      else none
    | '\x7b' :: rest =>
      if depth < deepest then do
        let (assignments, rest) ← assignments? fuel (depth + 1) rest
        return (← recordOf? assignments, rest)
      else none
    | '"' :: _ => (text? text).map fun (value, rest) => (.text (String.ofList value), rest)
    | '\'' :: _ => (text? text).map fun (value, rest) => (.text (String.ofList value), rest)
    | _ => bareValue? text

/-- The items of a list up to its closing bracket. -/
def items? : Nat → Nat → List Char → Option (List Datum × List Char)
  | 0, _, _ => none
  | fuel + 1, depth, text => do
    match ← skipLines false text with
    | ']' :: rest => return ([], rest)
    | rest =>
      let (item, rest) ← value? fuel depth rest
      match ← skipLines false rest with
      | ',' :: rest =>
        let (others, rest) ← items? fuel depth rest
        return (item :: others, rest)
      | ']' :: rest => return ([item], rest)
      | _ => none

/-- The assignments of an inline table up to its closing brace. -/
def assignments? : Nat → Nat → List Char → Option (List (KeyPath × Datum) × List Char)
  | 0, _, _ => none
  | fuel + 1, depth, text => do
    match ← skipLines false text with
    | '\x7d' :: rest => return ([], rest)
    | rest =>
      let (path, rest) ← keyPath? fuel rest
      let (value, rest) ← value? fuel depth (skipBlank (← mark? '=' (skipBlank rest)))
      match ← skipLines false rest with
      | ',' :: rest =>
        let (others, rest) ← assignments? fuel depth rest
        return ((path, value) :: others, rest)
      | '\x7d' :: rest => return ([(path, value)], rest)
      | _ => none

end

/-- Statements up to the end of the text. The current table is the one that the last header named;
a key without a header before it belongs to the root. -/
def statements? : Nat → List String → Entries → List Char → Option Entries
  | 0, _, _, _ => none
  | fuel + 1, current, root, text => do
    match ← skipLines false text with
    | [] => return root
    | '[' :: '[' :: rest =>
      let (path, rest) ← keyPath? fuel (skipBlank rest)
      let rest ← lineEnd? (← mark? ']' (← mark? ']' (skipBlank rest)))
      statements? fuel (path.above ++ [path.last]) (← openElement path root) rest
    | '[' :: rest =>
      let (path, rest) ← keyPath? fuel (skipBlank rest)
      let rest ← lineEnd? (← mark? ']' (skipBlank rest))
      statements? fuel (path.above ++ [path.last]) (← openTable path root) rest
    | rest =>
      let (path, rest) ← keyPath? fuel rest
      let (value, rest) ← value? fuel 0 (skipBlank (← mark? '=' (skipBlank rest)))
      let root ← within (assign value path.last path.above) current root
      statements? fuel current root (← lineEnd? rest)

/-- The record that a whole document holds. A byte order mark in front of it is skipped. -/
def read (text : String) : Option Datum :=
  let characters := match text.toList with
    | '\ufeff' :: rest => rest
    | characters => characters
  (statements? (2 * characters.length + 4) [] [] characters).map fun root =>
    .record (fieldsOf root)

end BuildAgent.Toml
