import BuildAgent.Proofs.Text.Runs
import BuildAgent.Time.Reader
import Mathlib.Algebra.Group.Nat.Defs

/-!
# Points in time are read back

The reader of points in time is lenient, but what the printer writes it reads in one way only: as
the instant that was written, be it in a year of five digits or before the first one, within a leap
second, or with a fraction of three, six or nine digits (`Time.Timestamp.read_write`). Every number
is written with zeros in front to the width at which the reader stops, or before a mark at which it
stops, so the numbers are read one by one (`Time.readNumber_run`).
-/

namespace BuildAgent.Time

/-! ## Numbers -/

namespace Timestamp

theorem isDigit_of_mem_padded {width value : Nat} {digit : Char}
    (member : digit ∈ padded width value) : digit.isDigit = true := by
  simp only [padded, List.mem_append, List.mem_replicate] at member
  rcases member with ⟨_, rfl⟩ | member
  · rfl
  · exact Text.isDigit_of_mem_toDigits member

theorem length_padded {width value : Nat} (present : 0 < width) (small : value < 10 ^ width) :
    (padded width value).length = width := by
  have digits := (Nat.length_toDigits_le_iff (b := 10) (by decide) present).mpr small
  simp only [padded, List.length_append, List.length_replicate]
  omega

theorem padded_ne_nil (width value : Nat) : padded width value ≠ [] := by
  simp [padded]

theorem valueOf_padded (width value : Nat) : valueOf (padded width value) = value := by
  refine (Text.foldl_digits _ 0).trans ?_
  rw [padded, Nat.ofDigitChars_append, Nat.ofDigitChars_replicate_zero, Nat.mul_zero,
    Nat.ofDigitChars_ten_toDigits]

end Timestamp

theorem takeWhile_take_run {digits rest : List Char} {most : Nat}
    (within : ∀ digit ∈ digits, digit.isDigit = true) (short : digits.length ≤ most)
    (stops : digits.length = most ∨ Text.Stops Char.isDigit rest) :
    ((digits ++ rest).take most).takeWhile Char.isDigit = digits := by
  rw [List.take_append, List.take_of_length_le short]
  apply Text.takeWhile_run within
  rcases stops with full | stops
  · rw [full, Nat.sub_self, List.take_zero]
    exact Text.stops_nil
  · cases rest with
    | nil =>
        rw [List.take_nil]
        exact Text.stops_nil
    | cons first others =>
        cases most - digits.length with
        | zero => exact Text.stops_nil
        | succ more => exact Text.stops_cons (stops first rfl)

/-- A number is read to the width at which the reader stops, or to the next mark. -/
theorem readNumber_run {digits rest : List Char} {most : Nat}
    (within : ∀ digit ∈ digits, digit.isDigit = true) (present : digits ≠ [])
    (short : digits.length ≤ most)
    (stops : digits.length = most ∨ Text.Stops Char.isDigit rest) :
    readNumber most (digits ++ rest) = some (valueOf digits, rest) := by
  simp only [readNumber, takeWhile_take_run within short stops, List.isEmpty_iff, present,
    if_false, List.drop_left]

open Timestamp

theorem exists_padded_eq_cons (width value : Nat) :
    ∃ first others, padded width value = first :: others ∧ first.isDigit = true := by
  generalize written : padded width value = digits
  cases digits with
  | nil => exact absurd written (padded_ne_nil width value)
  | cons first others =>
      exact ⟨first, others, rfl, isDigit_of_mem_padded (by rw [written]; exact .head _)⟩

theorem trimStart_padded (width value : Nat) (rest : List Char) :
    Text.trimStart (padded width value ++ rest) = padded width value ++ rest := by
  rcases exists_padded_eq_cons width value with ⟨first, others, written, digit⟩
  apply Text.trimStart_of_stops
  rw [written]
  exact Text.stops_cons (Text.not_isBlank_of_isDigit digit)

theorem readField_padded {least most value : Nat} (above : least ≤ value) (below : value ≤ most)
    (small : value < 10 ^ 2) (rest : List Char) :
    readField least most (padded 2 value ++ rest) = some (value, rest) := by
  have width := length_padded (by decide) small
  have number : readNumber 2 (padded 2 value ++ rest) = some (value, rest) := by
    rw [readNumber_run (fun _ => isDigit_of_mem_padded) (padded_ne_nil 2 value)
      (Nat.le_of_eq width) (.inl width), valueOf_padded]
  simp only [readField, trimStart_padded, number, Option.bind_eq_bind, Option.bind_some,
    above, below, and_self, if_true]
  rfl

/-- A mark is no digit, so a number in front of it may have any width. -/
theorem readNumber_padded {most width value : Nat} {mark : Char} {rest : List Char}
    (short : (padded width value).length ≤ most) (isMark : mark.isDigit = false) :
    readNumber most (padded width value ++ mark :: rest) = some (value, mark :: rest) := by
  rw [readNumber_run (fun _ => isDigit_of_mem_padded) (padded_ne_nil width value) short
    (.inr (Text.stops_cons isMark)), valueOf_padded]

theorem readYear_digit {first : Char} {others : List Char} (digit : first.isDigit = true) :
    readYear (first :: others) =
      (readNumber 4 (first :: others)).map fun (value, rest) => ((value : Int), rest) := by
  have stops : Text.Stops Text.isBlank (first :: others) :=
    Text.stops_cons (Text.not_isBlank_of_isDigit digit)
  simp only [readYear, Text.trimStart_of_stops stops]
  split
  · rename_i signed
    cases signed
    cases digit
  · rename_i signed
    cases signed
    cases digit
  · rfl

/-- A year is read back, with its sign if it needs one. -/
theorem readYear_write (year : Int) (rest : List Char) :
    readYear (writeYear year ++ '-' :: rest) = some (year, '-' :: rest) := by
  have signed : (padded 4 year.natAbs).length ≤ (padded 4 year.natAbs ++ '-' :: rest).length := by
    simp
  simp only [writeYear]
  split
  · rename_i negative
    have number := @readNumber_padded _ 4 year.natAbs '-' rest signed rfl
    have value : -(year.natAbs : Int) = year := by omega
    have sign : Text.trimStart ('-' :: (padded 4 year.natAbs ++ '-' :: rest)) =
        '-' :: (padded 4 year.natAbs ++ '-' :: rest) := rfl
    simp only [readYear, List.cons_append, sign, number, Option.map_some, value]
  split
  · rename_i positive short
    have width : (padded 4 year.natAbs).length = 4 := length_padded (by decide) (by omega)
    have number := @readNumber_padded 4 4 year.natAbs '-' rest (Nat.le_of_eq width) rfl
    have value : (year.natAbs : Int) = year := by omega
    rcases exists_padded_eq_cons 4 year.natAbs with ⟨first, others, written, digit⟩
    rw [written, List.cons_append] at number ⊢
    simp only [readYear_digit digit, number, Option.map_some, value]
  · rename_i positive long
    have number := @readNumber_padded _ 4 year.natAbs '-' rest signed rfl
    have value : (year.natAbs : Int) = year := by omega
    have sign : Text.trimStart ('+' :: (padded 4 year.natAbs ++ '-' :: rest)) =
        '+' :: (padded 4 year.natAbs ++ '-' :: rest) := rfl
    simp only [readYear, List.cons_append, sign, number, Option.map_some, value]

/-! ## Fractions -/

theorem readFraction_padded {width value : Nat} (present : 0 < width) (most : width ≤ 9)
    (small : value < 10 ^ width) :
    readFraction ('.' :: (padded width value ++ ['Z'])) =
      some (value * 10 ^ (9 - width), ['Z']) := by
  have length := length_padded present small
  have run : ((padded width value ++ ['Z']).take 9).takeWhile Char.isDigit = padded width value :=
    takeWhile_take_run (fun _ => isDigit_of_mem_padded) (by omega) (.inr (Text.stops_cons rfl))
  simp only [readFraction, run, List.isEmpty_iff, padded_ne_nil, if_false, valueOf_padded, length,
    List.drop_left']
  rfl

/-- However many digits are written, the fraction is read as the nanoseconds it stands for. -/
theorem readFraction_write {nanosecond : Nat} (proper : nanosecond < 1000000000) :
    readFraction (writeFraction nanosecond ++ ['Z']) = some (nanosecond, ['Z']) := by
  simp only [writeFraction]
  split
  · rename_i whole
    rw [whole]
    rfl
  split
  · rename_i milli
    rw [List.cons_append, readFraction_padded (by decide) (by decide) (by omega)]
    have value : nanosecond / 1000000 * 10 ^ (9 - 3) = nanosecond := by omega
    rw [value]
  split
  · rename_i micro
    rw [List.cons_append, readFraction_padded (by decide) (by decide) (by omega)]
    have value : nanosecond / 1000 * 10 ^ (9 - 6) = nanosecond := by omega
    rw [value]
  · rw [List.cons_append, readFraction_padded (by decide) (by decide) (by omega)]
    have value : nanosecond * 10 ^ (9 - 9) = nanosecond := by omega
    rw [value]

/-! ## Instants -/

theorem daysInMonth_le (year : Int) (month : Nat) : daysInMonth year month ≤ 31 := by
  simp only [daysInMonth]
  repeat' split
  all_goals omega

theorem readMark_self {mark : Char} (visible : Text.isBlank mark = false) (rest : List Char) :
    readMark mark (mark :: rest) = some rest := by
  simp [readMark, Text.trimStart_of_stops (Text.stops_cons visible)]

/-- A text whose parts are read one by one, with nothing after the offset, is read as the instant
that the parts name. -/
theorem read_of_parts {text afterYear fromMonth afterMonth fromDay fromHour afterHour
    fromMinute afterMinute fromSecond afterSecond afterFraction : List Char} {year offset : Int}
    {month day hour minute second fraction : Nat} {date : Date} {time : Timestamp}
    (yearRead : readYear text = some (year, afterYear))
    (yearEnds : readMark '-' afterYear = some fromMonth)
    (monthRead : readField 1 12 fromMonth = some (month, afterMonth))
    (monthEnds : readMark '-' afterMonth = some fromDay)
    (dayRead : readField 1 31 fromDay = some (day, 'T' :: fromHour))
    (hourRead : readField 0 23 fromHour = some (hour, afterHour))
    (hourEnds : readMark ':' afterHour = some fromMinute)
    (minuteRead : readField 0 59 fromMinute = some (minute, afterMinute))
    (minuteEnds : readMark ':' afterMinute = some fromSecond)
    (secondRead : readField 0 60 fromSecond = some (second, afterSecond))
    (fractionRead : readFraction afterSecond = some (fraction, afterFraction))
    (offsetRead : readOffset (Text.trimStart afterFraction) = some (offset, []))
    (isDate : Date.of? year month day = some date)
    (isTime : toUniversal date ((hour * 60 + minute) * 60 + (second - second / 60))
      (second / 60 * 1000000000 + fraction) offset = some time) : read text = some time := by
  refine Option.bind_eq_some_iff.mpr ⟨_, yearRead, ?_⟩
  refine Option.bind_eq_some_iff.mpr ⟨_, yearEnds, ?_⟩
  refine Option.bind_eq_some_iff.mpr ⟨_, monthRead, ?_⟩
  refine Option.bind_eq_some_iff.mpr ⟨_, monthEnds, ?_⟩
  refine Option.bind_eq_some_iff.mpr ⟨_, dayRead, ?_⟩
  refine Option.bind_eq_some_iff.mpr ⟨_, hourRead, ?_⟩
  refine Option.bind_eq_some_iff.mpr ⟨_, hourEnds, ?_⟩
  refine Option.bind_eq_some_iff.mpr ⟨_, minuteRead, ?_⟩
  refine Option.bind_eq_some_iff.mpr ⟨_, minuteEnds, ?_⟩
  refine Option.bind_eq_some_iff.mpr ⟨_, secondRead, ?_⟩
  refine Option.bind_eq_some_iff.mpr ⟨_, fractionRead, ?_⟩
  refine Option.bind_eq_some_iff.mpr ⟨_, offsetRead, ?_⟩
  exact Option.bind_eq_some_iff.mpr ⟨_, isDate, isTime⟩

/-- An instant of universal time needs no conversion. -/
theorem toUniversal_zero {date : Date} {second nanosecond : Nat}
    (isMoment : IsMoment second nanosecond) :
    toUniversal date second nanosecond 0 = some ⟨date, second, nanosecond, isMoment⟩ := by
  have within := isMoment.1
  have forward : ¬(second : Int) < 0 := by omega
  have today : (second : Int) < 86400 := by omega
  simp [toUniversal, forward, today, Timestamp.of?, isMoment]

/-- The hour, the minute, the second and the fraction that are written add up to the moment. -/
theorem toUniversal_written {date : Date} {second nanosecond : Nat}
    (isMoment : IsMoment second nanosecond) :
    toUniversal date
      ((second / 3600 * 60 + second / 60 % 60) * 60 +
        (second % 60 + nanosecond / 1000000000 - (second % 60 + nanosecond / 1000000000) / 60))
      ((second % 60 + nanosecond / 1000000000) / 60 * 1000000000 + nanosecond % 1000000000) 0 =
      some ⟨date, second, nanosecond, isMoment⟩ := by
  rcases id isMoment with ⟨within, bounded, leap⟩
  -- The nanoseconds of a leap second are a second more, and the second is the last of its minute.
  have seconds : ((second / 3600 * 60 + second / 60 % 60) * 60 +
      (second % 60 + nanosecond / 1000000000 -
        (second % 60 + nanosecond / 1000000000) / 60)) = second := by omega
  have nanoseconds : (second % 60 + nanosecond / 1000000000) / 60 * 1000000000 +
      nanosecond % 1000000000 = nanosecond := by omega
  rw [seconds, nanoseconds, toUniversal_zero isMoment]

/-- **What is written for an instant is read as that instant.** -/
theorem Timestamp.read_write (time : Timestamp) : read time.write = some time := by
  rcases time with ⟨⟨year, month, day, isDay⟩, second, nanosecond, isMoment⟩
  rcases id isDay with ⟨_, ⟨month_least, month_most⟩, ⟨day_least, day_most⟩⟩
  have day_bound := Nat.le_trans day_most (daysInMonth_le year month)
  have within := isMoment.1
  have bounded := isMoment.2.1
  have readMonth := fun rest => readField_padded month_least month_most (by omega) rest
  have readDay := fun rest => readField_padded day_least day_bound (by omega) rest
  have readHour := fun rest => readField_padded (Nat.zero_le (second / 3600))
    (show second / 3600 ≤ 23 by omega) (by omega) rest
  have readMinute := fun rest => readField_padded (Nat.zero_le (second / 60 % 60))
    (show second / 60 % 60 ≤ 59 by omega) (by omega) rest
  have seconds : second % 60 + nanosecond / 1000000000 ≤ 60 := by omega
  have readSecond := fun rest => readField_padded (Nat.zero_le _) seconds (by omega) rest
  have fraction : readFraction (writeFraction (nanosecond % 1000000000) ++ ['Z']) =
      some (nanosecond % 1000000000, ['Z']) := readFraction_write (by omega)
  have dash : ∀ rest, readMark '-' ('-' :: rest) = some rest := readMark_self rfl
  have colon : ∀ rest, readMark ':' (':' :: rest) = some rest := readMark_self rfl
  have offset : readOffset (Text.trimStart ['Z']) = some (0, []) := by decide
  have date : Date.of? year month day = some ⟨year, month, day, isDay⟩ := dif_pos isDay
  have parts := read_of_parts (readYear_write year _) (dash _) (readMonth _) (dash _) (readDay _)
    (readHour _) (colon _) (readMinute _) (colon _) (readSecond _) fraction offset date
    (toUniversal_written isMoment)
  simpa only [write, List.append_assoc, List.cons_append] using parts

end BuildAgent.Time
