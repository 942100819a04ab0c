import BuildAgent.Document.Datum

/-!
# Writing JSON

The compact form: no blanks, the fields of a record in their order. In a text the quotation mark,
the backslash and the controls are escaped, five controls by a letter and the others by four
hexadecimal digits in lower case; every other character stands for itself.
-/

namespace BuildAgent.Json

def hexDigit (value : Nat) : Char :=
  if value < 10 then Char.ofNat ('0'.toNat + value) else Char.ofNat ('a'.toNat + (value - 10))

def escape (character : Char) : List Char :=
  if character = '"' then ['\\', '"']
  else if character = '\\' then ['\\', '\\']
  else if character = '\x08' then ['\\', 'b']
  else if character = '\x0c' then ['\\', 'f']
  else if character = '\n' then ['\\', 'n']
  else if character = '\r' then ['\\', 'r']
  else if character = '\t' then ['\\', 't']
  else if character.toNat < 0x20 then
    ['\\', 'u', '0', '0', hexDigit (character.toNat / 16), hexDigit (character.toNat % 16)]
  else [character]

def writeText (text : String) : List Char :=
  '"' :: text.toList.flatMap escape ++ ['"']

def writeInteger : Int → List Char
  | .ofNat value => Nat.toDigits 10 value
  | .negSucc value => '-' :: Nat.toDigits 10 (value + 1)

mutual

def write : Datum → List Char
  | .absent => "null".toList
  | .truth true => "true".toList
  | .truth false => "false".toList
  | .integer value => writeInteger value
  | .fraction literal => literal.toList
  | .moment literal => writeText literal
  | .text value => writeText value
  | .list items => '[' :: writeItems items ++ [']']
  | .record fields => '\x7b' :: writeFields fields ++ ['\x7d']

def writeItems : List Datum → List Char
  | [] => []
  | [item] => write item
  | item :: rest => write item ++ ',' :: writeItems rest

def writeFields : List (String × Datum) → List Char
  | [] => []
  | [(name, value)] => writeText name ++ ':' :: write value
  | (name, value) :: rest => writeText name ++ ':' :: write value ++ ',' :: writeFields rest

end

def print (datum : Datum) : String :=
  String.ofList (write datum)

end BuildAgent.Json
