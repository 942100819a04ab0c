import BuildAgent.Text.Hidden

/-!
# Quoted text

A text that is shown to a person inside a message stands between quotation marks, on one line, with
nothing in it that could be mistaken for something else: the mark itself and the backslash are
escaped, the common controls have short names, and every hidden character is written as its code
point in hexadecimal. `quoted` does this for a text and `quotedCharacter` for one character.
-/

namespace BuildAgent.Text

/-- The spelling of one character between two quotation marks `mark`. -/
def spell (mark character : Char) : List Char :=
  if character = '\x00' then ['\\', '0']
  else if character = '\t' then ['\\', 't']
  else if character = '\r' then ['\\', 'r']
  else if character = '\n' then ['\\', 'n']
  else if character = '\\' ∨ character = mark then ['\\', character]
  else if isHidden character then
    "\\u\x7b".toList ++ Nat.toDigits 16 character.toNat ++ "\x7d".toList
  else [character]

def quoted (text : String) : String :=
  String.ofList ('"' :: text.toList.flatMap (spell '"') ++ ['"'])

def quotedCharacter (character : Char) : String :=
  String.ofList ('\'' :: spell '\'' character ++ ['\''])

end BuildAgent.Text
