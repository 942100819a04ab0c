import BuildAgent.Document.Datum
import BuildAgent.Text.Decimal

/-!
# Reading JSON

A reader of one value takes the characters that belong to it off the front of a text and gives the
rest back. Nesting is bounded by a fuel argument, which the length of the text always covers; the
entry point `read` supplies it, so callers do not see it.

A number without fraction and exponent is an integer if 64 bits hold it, signed or unsigned. Every
other number, and minus zero with them, is a fraction.
-/

namespace BuildAgent.Json

/-- The text from its first character on that is not insignificant space. -/
def skipSpace (text : List Char) : List Char :=
  text.dropWhile fun character =>
    character == ' ' || character == '\t' || character == '\n' || character == '\r'

def hexValue? (character : Char) : Option Nat :=
  if character.isDigit then some (character.toNat - '0'.toNat)
  else if 'a' ≤ character ∧ character ≤ 'f' then some (character.toNat - 'a'.toNat + 10)
  else if 'A' ≤ character ∧ character ≤ 'F' then some (character.toNat - 'A'.toNat + 10)
  else none

def readUnit : List Char → Option (Nat × List Char)
  | first :: second :: third :: fourth :: rest => do
    let first ← hexValue? first
    let second ← hexValue? second
    let third ← hexValue? third
    let fourth ← hexValue? fourth
    return (((first * 16 + second) * 16 + third) * 16 + fourth, rest)
  | _ => none

/-- A character given by its code unit, or by two where the first is a leading surrogate. -/
def readCodePoint (text : List Char) : Option (Char × List Char) := do
  let (unit, rest) ← readUnit text
  if 0xd800 ≤ unit ∧ unit < 0xdc00 then
    match rest with
    | '\\' :: 'u' :: more =>
      let (trailing, rest) ← readUnit more
      if 0xdc00 ≤ trailing ∧ trailing < 0xe000 then
        return (Char.ofNat (0x10000 + (unit - 0xd800) * 0x400 + (trailing - 0xdc00)), rest)
      else none
    | _ => none
  else if 0xdc00 ≤ unit ∧ unit < 0xe000 then none
  else return (Char.ofNat unit, rest)

/-- The character that an escape stands for; the text begins after the backslash. -/
def readEscape : List Char → Option (Char × List Char)
  | 'u' :: rest => readCodePoint rest
  | '"' :: rest => some ('"', rest)
  | '\\' :: rest => some ('\\', rest)
  | '/' :: rest => some ('/', rest)
  | 'b' :: rest => some ('\x08', rest)
  | 'f' :: rest => some ('\x0c', rest)
  | 'n' :: rest => some ('\n', rest)
  | 'r' :: rest => some ('\r', rest)
  | 't' :: rest => some ('\t', rest)
  | _ => none

/-- The characters of a text up to its closing mark; the opening one has been taken. -/
def readCharacters : Nat → List Char → Option (List Char × List Char)
  | 0, _ => none
  | _, [] => none
  | fuel + 1, character :: rest =>
    if character = '"' then some ([], rest)
    else if character = '\\' then do
      let (escaped, rest) ← readEscape rest
      let (others, rest) ← readCharacters fuel rest
      return (escaped :: others, rest)
    else if character.toNat < 0x20 then none
    else do
      let (others, rest) ← readCharacters fuel rest
      return (character :: others, rest)

/-- A text; the opening mark has been taken. -/
def readText (text : List Char) : Option (String × List Char) :=
  (readCharacters (text.length + 1) text).map fun (characters, rest) =>
    (String.ofList characters, rest)

/-- The digits at the front of a text, at least one. -/
def readDigits (text : List Char) : Option (List Char × List Char) :=
  match text.span Char.isDigit with
  | ([], _) => none
  | digits => some digits

def readFraction : List Char → Option (List Char × List Char)
  | '.' :: rest => (readDigits rest).map fun (digits, rest) => ('.' :: digits, rest)
  | text => some ([], text)

def readExponent : List Char → Option (List Char × List Char)
  | mark :: rest =>
    if mark = 'e' ∨ mark = 'E' then
      match rest with
      | '+' :: rest => (readDigits rest).map fun (digits, rest) => (mark :: '+' :: digits, rest)
      | '-' :: rest => (readDigits rest).map fun (digits, rest) => (mark :: '-' :: digits, rest)
      | rest => (readDigits rest).map fun (digits, rest) => (mark :: digits, rest)
    else some ([], mark :: rest)
  | [] => some ([], [])

def valueOf (digits : List Char) : Nat :=
  digits.foldl (fun value digit => value * 10 + (digit.toNat - '0'.toNat)) 0

def readNumber (negative : Bool) (text : List Char) : Option (Datum × List Char) := do
  let (whole, rest) ← readDigits text
  if 1 < whole.length ∧ whole.head? = some '0' then none
  let (fraction, rest) ← readFraction rest
  let (exponent, rest) ← readExponent rest
  let sign := if negative then ['-'] else []
  let literal := Datum.fraction (String.ofList (sign ++ whole ++ fraction ++ exponent))
  let value := valueOf whole
  if ¬fraction.isEmpty ∨ ¬exponent.isEmpty then return (literal, rest)
  else if negative then
    if 0 < value ∧ value ≤ Text.Decimal.largestSigned64 + 1 then
      return (.integer (-(value : Int)), rest)
    else return (literal, rest)
  else if value ≤ Text.Decimal.largest64 then return (.integer value, rest)
  else return (literal, rest)

def readWord (text : List Char) : Option (Datum × List Char) :=
  match text with
  | 'n' :: 'u' :: 'l' :: 'l' :: rest => some (.absent, rest)
  | 't' :: 'r' :: 'u' :: 'e' :: rest => some (.truth true, rest)
  | 'f' :: 'a' :: 'l' :: 's' :: 'e' :: rest => some (.truth false, rest)
  | _ => none

mutual

def readValue : Nat → List Char → Option (Datum × List Char)
  | 0, _ => none
  | fuel + 1, text =>
    match skipSpace text with
    | [] => none
    | character :: rest =>
      if character = '"' then (readText rest).map fun (value, rest) => (.text value, rest)
      else if character = '[' then
        match skipSpace rest with
        | ']' :: rest => some (.list [], rest)
        | rest => (readItems fuel rest).map fun (items, rest) => (.list items, rest)
      else if character = '\x7b' then
        match skipSpace rest with
        | '\x7d' :: rest => some (.record [], rest)
        | rest => (readFields fuel rest).map fun (fields, rest) => (.record fields, rest)
      else if character = '-' then readNumber true rest
      else if character.isDigit then readNumber false (character :: rest)
      else readWord (character :: rest)

/-- The items of a list up to its closing bracket, at least one. -/
def readItems : Nat → List Char → Option (List Datum × List Char)
  | 0, _ => none
  | fuel + 1, text => do
    let (item, rest) ← readValue fuel text
    match skipSpace rest with
    | ',' :: rest =>
      let (others, rest) ← readItems fuel rest
      return (item :: others, rest)
    | ']' :: rest => return ([item], rest)
    | _ => none

/-- The fields of a record up to its closing brace, at least one. -/
def readFields : Nat → List Char → Option (List (String × Datum) × List Char)
  | 0, _ => none
  | fuel + 1, text => do
    match skipSpace text with
    | '"' :: rest =>
      let (name, rest) ← readText rest
      match skipSpace rest with
      | ':' :: rest =>
        let (value, rest) ← readValue fuel rest
        match skipSpace rest with
        | ',' :: rest =>
          let (others, rest) ← readFields fuel rest
          return ((name, value) :: others, rest)
        | '\x7d' :: rest => return ([(name, value)], rest)
        | _ => none
      | _ => none
    | _ => none

end

def read (text : String) : Option Datum := do
  let characters := text.toList
  let (datum, rest) ← readValue (2 * characters.length + 2) characters
  if (skipSpace rest).isEmpty then return datum else none

end BuildAgent.Json
