import BuildAgent.Document.Datum
import BuildAgent.Time.Date

/-!
# Bare values of a TOML document

The values that stand without quotation marks: truth values, whole numbers, fractional numbers,
dates and times. `scalar?` reads the whole of such a word. Digits may be grouped by single
underscores, a decimal number has no leading zeros, and a whole number may be hexadecimal, octal
or binary. A whole number has to fit 128 bits and a fractional one the range of double precision.
The seconds of a time may be left out.
-/

namespace BuildAgent.Toml

/-- The digits of a group, taken out of their underscores. An underscore stands between two
digits; `after` says that a digit stands in front. -/
def ungrouped (isDigit : Char → Bool) (after : Bool) : List Char → Option (List Char)
  | [] => if after then some [] else none
  | character :: rest =>
    if character = '_' then if after then ungrouped isDigit false rest else none
    else if isDigit character then (ungrouped isDigit true rest).map (character :: ·)
    else none

/-- The value of a digit in a base of up to sixteen. -/
def digitValue (character : Char) : Nat :=
  if character.isDigit then character.toNat - '0'.toNat
  else character.toLower.toNat - 'a'.toNat + 10

/-- Whether a character is a digit of a base of up to sixteen. -/
def isDigitOf (base : Nat) (character : Char) : Bool :=
  (character.isDigit || ('a' ≤ character.toLower && character.toLower ≤ 'f')) &&
    digitValue character < base

def valueIn (base : Nat) (digits : List Char) : Nat :=
  digits.foldl (fun value digit => value * base + digitValue digit) 0

def decimalDigits? (word : List Char) : Option (List Char) := do
  let digits ← ungrouped Char.isDigit false word
  if 1 < digits.length ∧ digits.head? = some '0' then none else return digits

/-- The sign in front of a word, and what it stands before. -/
def splitSign : List Char → Bool × List Char
  | '-' :: rest => (true, rest)
  | '+' :: rest => (false, rest)
  | word => (false, word)

/-- A value with a sign, if 128 bits hold it. -/
def signed? (negative : Bool) (value : Nat) : Option Datum :=
  if negative then if value ≤ 1 <<< 127 then some (.integer (-(value : Int))) else none
  else if value < 1 <<< 128 then some (.integer value)
  else none

def integer? (word : List Char) : Option Datum :=
  match word with
  | '0' :: 'x' :: digits =>
    (ungrouped (isDigitOf 16) false digits).bind fun digits => signed? false (valueIn 16 digits)
  | '0' :: 'o' :: digits =>
    (ungrouped (isDigitOf 8) false digits).bind fun digits => signed? false (valueIn 8 digits)
  | '0' :: 'b' :: digits =>
    (ungrouped (isDigitOf 2) false digits).bind fun digits => signed? false (valueIn 2 digits)
  | word =>
    let (negative, digits) := splitSign word
    (decimalDigits? digits).bind fun digits => signed? negative (valueIn 10 digits)

/-- The least number that double precision rounds up to infinity. -/
def overflowBound : Nat := 1 <<< 1024 - 1 <<< 970

/-- Whether digits times a power of ten stay below infinity in double precision. -/
def isFinite (digits : List Char) (exponent : Int) : Bool :=
  let significant := digits.dropWhile (· == '0')
  let magnitude := (significant.length : Int) + exponent
  if significant.isEmpty || magnitude ≤ 308 then true
  else if 310 < magnitude then false
  else if 0 ≤ exponent then valueIn 10 significant * Nat.pow 10 exponent.toNat < overflowBound
  else valueIn 10 significant < overflowBound * Nat.pow 10 (-exponent).toNat

def fraction? (word : List Char) : Option Datum := do
  let literal := Datum.fraction (String.ofList word)
  let (_, body) := splitSign word
  if body = "inf".toList ∨ body = "nan".toList then return literal
  let (mantissa, exponentPart) := body.span fun character => character != 'e' && character != 'E'
  let (whole, fractionPart) := mantissa.span (· != '.')
  let wholeDigits ← decimalDigits? whole
  let fractionDigits ← match fractionPart with
    | [] => some []
    | _ :: digits => ungrouped Char.isDigit false digits
  let exponent ← match exponentPart with
    | [] => some (0 : Int)
    | _ :: rest => do
      let (negative, digits) := splitSign rest
      let digits ← ungrouped Char.isDigit false digits
      let value : Int := valueIn 10 digits
      pure (if negative then -value else value)
  if fractionPart.isEmpty ∧ exponentPart.isEmpty then none
  else if isFinite (wholeDigits ++ fractionDigits) (exponent - fractionDigits.length) then
    return literal
  else none

/-- A number of a given count of digits at the front of a text. -/
def fixedDigits? (count : Nat) (text : List Char) : Option (Nat × List Char) :=
  let digits := text.take count
  if digits.length = count ∧ digits.all Char.isDigit then
    some (valueIn 10 digits, text.drop count)
  else none

/-- A character that has to stand at the front of a text. -/
def mark? (mark : Char) : List Char → Option (List Char)
  | character :: rest => if character = mark then some rest else none
  | [] => none

/-- The rest of a text after a date at its front. -/
def date? (text : List Char) : Option (List Char) := do
  let (year, rest) ← fixedDigits? 4 text
  let (month, rest) ← fixedDigits? 2 (← mark? '-' rest)
  let (day, rest) ← fixedDigits? 2 (← mark? '-' rest)
  if 1 ≤ month ∧ month ≤ 12 ∧ 1 ≤ day ∧ day ≤ Time.daysInMonth year month then return rest
  else none

/-- The rest of a text after a time of day at its front. -/
def time? (text : List Char) : Option (List Char) := do
  let (hour, rest) ← fixedDigits? 2 text
  let (minute, rest) ← fixedDigits? 2 (← mark? ':' rest)
  let (second, rest) ← match rest with
    | ':' :: rest => fixedDigits? 2 rest
    | rest => some (0, rest)
  if hour ≤ 23 ∧ minute ≤ 59 ∧ second ≤ 60 then
    match rest with
    | '.' :: fraction =>
      if (fraction.takeWhile Char.isDigit).isEmpty then none
      else return fraction.dropWhile Char.isDigit
    | rest => return rest
  else none

def isOffset (text : List Char) : Bool :=
  match text with
  | ['Z'] => true
  | ['z'] => true
  | sign :: rest =>
    (sign == '+' || sign == '-') && (do
      let (hours, rest) ← fixedDigits? 2 rest
      let (minutes, rest) ← fixedDigits? 2 (← mark? ':' rest)
      return hours ≤ 23 && minutes ≤ 59 && rest.isEmpty).getD false
  | [] => false

/-- A date, a time, or a date with a time and perhaps an offset. -/
def moment? (word : List Char) : Option Datum :=
  let isMoment :=
    match date? word with
    | some [] => true
    | some (separator :: rest) =>
      (separator == 'T' || separator == 't' || separator == ' ') &&
        match time? rest with
        | some rest => rest.isEmpty || isOffset rest
        | none => false
    | none => time? word = some []
  if isMoment then some (.moment (String.ofList word)) else none

def scalar? (word : List Char) : Option Datum :=
  if word = "true".toList then some (.truth true)
  else if word = "false".toList then some (.truth false)
  else
    match integer? word with
    | some datum => some datum
    | none =>
      match fraction? word with
      | some datum => some datum
      | none => moment? word

end BuildAgent.Toml
