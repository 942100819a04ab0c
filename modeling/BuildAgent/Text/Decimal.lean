/-!
# Decimal numbers

Whole numbers as people write them in settings: decimal digits, leading zeros allowed, after an
optional sign. The number has to fit a machine word, so each reader takes the bound that it must
respect, and the first thing wrong, from left to right, is the fault that is reported. A sign with
nothing after it is an invalid digit; a text with nothing at all is empty.
-/

namespace BuildAgent.Text.Decimal

/-- What is wrong with a number. -/
inductive Fault where
  | empty
  | invalidDigit
  | tooLarge
  | tooSmall
  deriving DecidableEq, Repr

def Fault.message : Fault → String
  | .empty => "cannot parse integer from empty string"
  | .invalidDigit => "invalid digit found in string"
  | .tooLarge => "number too large to fit in target type"
  | .tooSmall => "number too small to fit in target type"

def digit? (character : Char) : Option Nat :=
  if character.isDigit then some (character.toNat - '0'.toNat) else none

/-- Reads digits onto a value that they continue; no value on the way may pass the bound. -/
def readDigits (bound : Nat) (overflow : Fault) : List Char → Nat → Except Fault Nat
  | [], value => .ok value
  | character :: rest, value =>
    match digit? character with
    | none => .error .invalidDigit
    | some digit =>
      if bound < value * 10 + digit then .error overflow
      else readDigits bound overflow rest (value * 10 + digit)

/-- Reads a number from zero to the bound. A plus sign is allowed, a minus sign is no digit. -/
def readNatural (bound : Nat) : List Char → Except Fault Nat
  | [] => .error .empty
  | ['+'] => .error .invalidDigit
  | '+' :: digits => readDigits bound .tooLarge digits 0
  | digits => readDigits bound .tooLarge digits 0

/-- Reads a number from `-bound - 1` to `bound`. -/
def readInteger (bound : Nat) : List Char → Except Fault Int
  | [] => .error .empty
  | ['+'] => .error .invalidDigit
  | ['-'] => .error .invalidDigit
  | '-' :: digits => (readDigits (bound + 1) .tooSmall digits 0).map fun value => -(value : Int)
  | '+' :: digits => (readDigits bound .tooLarge digits 0).map Int.ofNat
  | digits => (readDigits bound .tooLarge digits 0).map Int.ofNat

def largest32 : Nat := UInt32.size - 1

def largest64 : Nat := UInt64.size - 1

/-- The largest number that 64 bits hold when one of them is the sign. -/
def largestSigned64 : Nat := UInt64.size / 2 - 1

end BuildAgent.Text.Decimal
