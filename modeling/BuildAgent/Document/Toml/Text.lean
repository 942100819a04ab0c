import BuildAgent.Document.Json.Reader

/-!
# Texts of a TOML document

Four kinds of text: in double quotation marks with escapes, in single ones without, and each of
them on one line or, between tripled marks, on several. A line break right after the tripled opening
marks is dropped, up to two marks may stand inside, and a backslash at the end of a line takes the
break and the blank lines and leading blanks after it away. Controls other than the tab are refused.
-/

namespace BuildAgent.Toml

/-- Whether a character may stand in a text as it is. -/
def isPlain (character : Char) : Bool :=
  character == '\t' || (0x20 ≤ character.toNat && character.toNat != 0x7f)

/-- A code point given by a number of hexadecimal digits. -/
def codePoint? (count : Nat) (text : List Char) : Option (Char × List Char) := do
  let digits := text.take count
  if digits.length ≠ count then none
  let values ← digits.mapM Json.hexValue?
  let code := values.foldl (fun code value => code * 16 + value) 0
  if code < 0xd800 ∨ (0xdfff < code ∧ code < 0x110000) then
    return (Char.ofNat code, text.drop count)
  else none

/-- The character that an escape stands for; the text begins after the backslash. -/
def escape? : List Char → Option (Char × List Char)
  | 'b' :: rest => some ('\x08', rest)
  | 't' :: rest => some ('\t', rest)
  | 'n' :: rest => some ('\n', rest)
  | 'f' :: rest => some ('\x0c', rest)
  | 'r' :: rest => some ('\r', rest)
  | 'e' :: rest => some ('\x1b', rest)
  | '"' :: rest => some ('"', rest)
  | '\\' :: rest => some ('\\', rest)
  | 'x' :: rest => codePoint? 2 rest
  | 'u' :: rest => codePoint? 4 rest
  | 'U' :: rest => codePoint? 8 rest
  | _ => none

/-- A text with escapes up to its closing mark; the opening one has been taken. -/
def basicText? : Nat → List Char → Option (List Char × List Char)
  | 0, _ => none
  | _, [] => none
  | fuel + 1, character :: rest =>
    if character = '"' then some ([], rest)
    else if character = '\\' then do
      let (escaped, rest) ← escape? rest
      let (others, rest) ← basicText? fuel rest
      return (escaped :: others, rest)
    else if isPlain character then do
      let (others, rest) ← basicText? fuel rest
      return (character :: others, rest)
    else none

/-- A text without escapes up to its closing mark; the opening one has been taken. -/
def literalText? : List Char → Option (List Char × List Char)
  | [] => none
  | character :: rest =>
    if character = '\'' then some ([], rest)
    else if isPlain character then
      (literalText? rest).map fun (others, rest) => (character :: others, rest)
    else none

/-- The marks at the front of a text on several lines: those that belong to the text, and, if they
close it, what follows. -/
def closingMarks (mark : Char) (text : List Char) : List Char × Option (List Char) :=
  let count := (text.takeWhile (· == mark)).length
  if count < 3 then (List.replicate count mark, none)
  else (List.replicate (min count 5 - 3) mark, some (text.drop (min count 5)))

/-- What follows a backslash at the end of a line: the first character that is neither a blank nor a
line break. Absent if the backslash does not end its line. -/
def afterLineEnd? (broken : Bool) : List Char → Option (List Char)
  | ' ' :: rest => afterLineEnd? broken rest
  | '\t' :: rest => afterLineEnd? broken rest
  | '\n' :: rest => afterLineEnd? true rest
  | '\r' :: '\n' :: rest => afterLineEnd? true rest
  | rest => if broken then some rest else none

/-- A text on several lines up to its closing marks; the opening ones have been taken. -/
def longText? (mark : Char) (escapes : Bool) : Nat → List Char → Option (List Char × List Char)
  | 0, _ => none
  | _, [] => none
  | fuel + 1, character :: rest =>
    if character = mark then
      match closingMarks mark (character :: rest) with
      | (marks, some rest) => some (marks, rest)
      | (marks, none) => do
        let (others, rest) ← longText? mark escapes fuel ((character :: rest).drop marks.length)
        return (marks ++ others, rest)
    else if escapes ∧ character = '\\' then
      match afterLineEnd? false rest with
      | some rest => longText? mark escapes fuel rest
      | none => do
        let (escaped, rest) ← escape? rest
        let (others, rest) ← longText? mark escapes fuel rest
        return (escaped :: others, rest)
    else if character = '\r' ∧ rest.head? ≠ some '\n' then none
    else if isPlain character ∨ character = '\n' ∨ character = '\r' then do
      let (others, rest) ← longText? mark escapes fuel rest
      return (character :: others, rest)
    else none

def dropLineBreak : List Char → List Char
  | '\n' :: rest => rest
  | '\r' :: '\n' :: rest => rest
  | text => text

/-- A text on one line, its opening mark included. -/
def shortText? : List Char → Option (List Char × List Char)
  | '"' :: rest => basicText? (rest.length + 1) rest
  | '\'' :: rest => literalText? rest
  | _ => none

/-- A text of any kind, its opening marks included. -/
def text? : List Char → Option (List Char × List Char)
  | '"' :: '"' :: '"' :: rest => longText? '"' true (rest.length + 1) (dropLineBreak rest)
  | '\'' :: '\'' :: '\'' :: rest => longText? '\'' false (rest.length + 1) (dropLineBreak rest)
  | text => shortText? text

end BuildAgent.Toml
