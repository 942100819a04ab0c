/-!
# Blank characters

Text that people write by hand arrives with stray space around it. A character is blank when it
has the Unicode property `White_Space`; `trim` takes the blank characters off both ends of a text
and leaves those inside it alone.
-/

namespace BuildAgent.Text

/-- Whether a character has the Unicode property `White_Space`. -/
def isBlank (character : Char) : Bool :=
  let code := character.toNat
  (0x09 ≤ code && code ≤ 0x0d) || code == 0x20 || code == 0x85 || code == 0xa0 ||
    code == 0x1680 || (0x2000 ≤ code && code ≤ 0x200a) || code == 0x2028 || code == 0x2029 ||
    code == 0x202f || code == 0x205f || code == 0x3000

/-- The text from its first character on that is not blank. -/
def trimStart (text : List Char) : List Char :=
  text.dropWhile isBlank

def trim (text : List Char) : List Char :=
  (trimStart (trimStart text).reverse).reverse

def trimmed (text : String) : String :=
  String.ofList (trim text.toList)

@[simp]
theorem trim_nil : trim [] = [] := rfl

end BuildAgent.Text
