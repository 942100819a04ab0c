import BuildAgent.Text.Blank
import BuildAgent.Time.Timestamp

/-!
# Reading points in time

The reader is lenient. Date and time are separated by `T`, `t` or one blank; numbers other than
the fraction may have fewer digits than usual and blanks in front of them; a year may have a sign
and then any number of digits. The offset from universal time is `Z`, the word `UTC` in any case, or
a sign with two digits of hours and two of minutes, between which colons and blanks are skipped.
The sixtieth second is a leap second. The instant is converted to universal time, and it is refused
if it falls outside the range of dates.
-/

namespace BuildAgent.Time

def valueOf (digits : List Char) : Nat :=
  digits.foldl (fun value digit => value * 10 + (digit.toNat - '0'.toNat)) 0

/-- A number of at least one digit and of no more than a given count. -/
def readNumber (most : Nat) (text : List Char) : Option (Nat × List Char) :=
  let digits := (text.take most).takeWhile Char.isDigit
  if digits.isEmpty then none else some (valueOf digits, text.drop digits.length)

/-- A number of one or two digits within bounds, blanks in front of it skipped. -/
def readField (least most : Nat) (text : List Char) : Option (Nat × List Char) := do
  let (value, rest) ← readNumber 2 (Text.trimStart text)
  if least ≤ value ∧ value ≤ most then return (value, rest) else none

/-- A year: up to four digits, or any number of them after a sign. -/
def readYear (text : List Char) : Option (Int × List Char) :=
  match Text.trimStart text with
  | '-' :: rest => (readNumber rest.length rest).map fun (value, rest) => (-(value : Int), rest)
  | '+' :: rest => (readNumber rest.length rest).map fun (value, rest) => ((value : Int), rest)
  | rest => (readNumber 4 rest).map fun (value, rest) => ((value : Int), rest)

def readMark (mark : Char) (text : List Char) : Option (List Char) :=
  match Text.trimStart text with
  | character :: rest => if character = mark then some rest else none
  | [] => none

/-- The fraction of a second in nanoseconds. Digits after the ninth are skipped. -/
def readFraction (text : List Char) : Option (Nat × List Char) :=
  match text with
  | '.' :: rest =>
    let digits := (rest.take 9).takeWhile Char.isDigit
    if digits.isEmpty then none
    else
      some (valueOf digits * Nat.pow 10 (9 - digits.length),
        (rest.drop digits.length).dropWhile Char.isDigit)
  | _ => some (0, text)

def readPair (text : List Char) : Option (Nat × List Char) :=
  match text with
  | first :: second :: rest =>
    if first.isDigit ∧ second.isDigit then some (valueOf [first, second], rest) else none
  | _ => none

/-- An offset from universal time in seconds. -/
def readOffset (text : List Char) : Option (Int × List Char) :=
  let word := (text.take 3).map Char.toUpper
  if word = "UTC".toList then some (0, text.drop 3)
  else
    match text with
    | 'Z' :: rest => some (0, rest)
    | 'z' :: rest => some (0, rest)
    | sign :: rest => do
      let negative ←
        if sign = '+' then some false
        else if sign = '-' ∨ sign = '−' then some true
        else none
      let (hours, rest) ← readPair rest
      let rest := rest.dropWhile fun character => character == ':' || Text.isBlank character
      let (minutes, rest) ← readPair rest
      if hours ≤ 23 ∧ minutes ≤ 59 then
        let seconds : Int := hours * 3600 + minutes * 60
        return (if negative then -seconds else seconds, rest)
      else none
    | [] => none

/-- The instant at which a clock shows a date and a moment, when it is ahead of universal time by
an offset of less than a day. -/
def toUniversal (date : Date) (second nanosecond : Nat) (offset : Int) : Option Timestamp :=
  let universal := (second : Int) - offset
  if universal < 0 then do
    Timestamp.of? (← date.previous?) (universal + 86400).toNat nanosecond
  else if universal < 86400 then Timestamp.of? date universal.toNat nanosecond
  else do
    Timestamp.of? (← date.next?) (universal - 86400).toNat nanosecond

def read (text : List Char) : Option Timestamp := do
  let (year, rest) ← readYear text
  let rest ← readMark '-' rest
  let (month, rest) ← readField 1 12 rest
  let rest ← readMark '-' rest
  let (day, rest) ← readField 1 31 rest
  let rest ← match rest with
    | separator :: rest =>
      if separator = 'T' ∨ separator = 't' ∨ separator = ' ' then some rest else none
    | [] => none
  let (hour, rest) ← readField 0 23 rest
  let rest ← readMark ':' rest
  let (minute, rest) ← readField 0 59 rest
  let rest ← readMark ':' rest
  let (second, rest) ← readField 0 60 rest
  let (fraction, rest) ← readFraction rest
  let (offset, rest) ← readOffset (Text.trimStart rest)
  if (Text.trimStart rest).isEmpty then
    let date ← Date.of? year month day
    let leap := second / 60
    toUniversal date ((hour * 60 + minute) * 60 + (second - leap))
      (leap * 1000000000 + fraction) offset
  else none

def read? (text : String) : Option Timestamp :=
  read text.toList

end BuildAgent.Time
