import BuildAgent.Time.Date

/-!
# Points in time

A `Timestamp` is an instant of universal time with a resolution of a nanosecond. The last second of
a minute may be a leap second, which is held as a nanosecond count of a second and more.

`print` writes the form `YYYY-MM-DDTHH:MM:SSZ`. A fraction is written with three, six or nine
digits, whichever is the least that is exact; a year outside `0000` to `9999` has a sign.
-/

namespace BuildAgent.Time

/-- Whether two numbers name a moment of a day, a leap second included. -/
def IsMoment (second nanosecond : Nat) : Prop :=
  second < 86400 ∧ nanosecond < 2000000000 ∧ (1000000000 ≤ nanosecond → second % 60 = 59)

instance (second nanosecond : Nat) : Decidable (IsMoment second nanosecond) :=
  inferInstanceAs (Decidable (_ ∧ _))

/-- An instant of universal time. -/
structure Timestamp where
  date : Date
  second : Nat
  nanosecond : Nat
  isMoment : IsMoment second nanosecond
  deriving DecidableEq

namespace Timestamp

/-- The instant with a date and a moment of that day, if the moment exists. -/
def of? (date : Date) (second nanosecond : Nat) : Option Timestamp :=
  if isMoment : IsMoment second nanosecond then some ⟨date, second, nanosecond, isMoment⟩
  else none

/-- Midnight at the start of the first of January 1970. -/
def epoch : Timestamp where
  date := ⟨1970, 1, 1, by decide⟩
  second := 0
  nanosecond := 0
  isMoment := by decide

def unixNanoseconds (time : Timestamp) : Int :=
  (time.date.dayNumber * 86400 + time.second) * 1000000000 + time.nanosecond

/-- A number in decimal with zeros in front up to a width. -/
def padded (width value : Nat) : List Char :=
  let digits := Nat.toDigits 10 value
  List.replicate (width - digits.length) '0' ++ digits

/-- A year: four digits, and a sign where four digits are not enough. -/
def writeYear (year : Int) : List Char :=
  if year < 0 then '-' :: padded 4 year.natAbs
  else if year ≤ 9999 then padded 4 year.natAbs
  else '+' :: padded 4 year.natAbs

/-- The fraction of a second in three, six or nine digits, nothing for a whole second. -/
def writeFraction (nanosecond : Nat) : List Char :=
  if nanosecond = 0 then []
  else if nanosecond % 1000000 = 0 then '.' :: padded 3 (nanosecond / 1000000)
  else if nanosecond % 1000 = 0 then '.' :: padded 6 (nanosecond / 1000)
  else '.' :: padded 9 nanosecond

def write (time : Timestamp) : List Char :=
  writeYear time.date.year ++ '-' :: padded 2 time.date.month ++ '-' :: padded 2 time.date.day ++
    'T' :: padded 2 (time.second / 3600) ++ ':' :: padded 2 (time.second / 60 % 60) ++
    ':' :: padded 2 (time.second % 60 + time.nanosecond / 1000000000) ++
    writeFraction (time.nanosecond % 1000000000) ++ ['Z']

def print (time : Timestamp) : String :=
  String.ofList time.write

end Timestamp

end BuildAgent.Time
