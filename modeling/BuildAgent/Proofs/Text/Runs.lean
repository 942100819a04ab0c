import BuildAgent.Text.Blank
import Mathlib.Data.List.TakeDrop
import Mathlib.Data.List.TakeWhile

/-!
# Runs of characters

A reader takes a run of characters of one class off the front of a text: digits, blanks, everything
up to a mark. Where such a run ends tells what is taken and what is left (`span_run` and its
neighbours). A text is trimmed in the same way from both ends, so the trimmed text is what stands
between two runs of blanks (`trim_eq`, `exists_trim`). Decimal digits are the run that readers of
numbers take; `Nat.toDigits` writes it without leading zeros.
-/

namespace BuildAgent.Text

/-- That a text does not begin with a character of a class. -/
def Stops (inClass : Char → Bool) (text : List Char) : Prop :=
  ∀ character, text.head? = some character → inClass character = false

variable {inClass : Char → Bool} {run rest : List Char}

/-- What holds of all characters of a closed text is decided on the text, not on all characters
that there are. -/
theorem forall_mem_of_all {holds : Char → Prop} [DecidablePred holds]
    (all : run.all (holds ·) = true) : ∀ character ∈ run, holds character := by
  simpa using all

theorem stops_nil : Stops inClass [] := nofun

theorem stops_cons {character : Char} (other : inClass character = false) :
    Stops inClass (character :: rest) := by
  rintro first ⟨⟩
  exact other

theorem takeWhile_run (within : ∀ character ∈ run, inClass character = true)
    (stops : Stops inClass rest) : (run ++ rest).takeWhile inClass = run := by
  rw [List.takeWhile_append_of_pos within]
  cases rest with
  | nil => simp
  | cons first rest => simp [stops first rfl]

theorem dropWhile_run (within : ∀ character ∈ run, inClass character = true)
    (stops : Stops inClass rest) : (run ++ rest).dropWhile inClass = rest := by
  rw [List.dropWhile_append_of_pos within]
  cases rest with
  | nil => rfl
  | cons first rest => simp [stops first rfl]

theorem span_run (within : ∀ character ∈ run, inClass character = true)
    (stops : Stops inClass rest) : (run ++ rest).span inClass = (run, rest) := by
  rw [List.span_eq_takeWhile_dropWhile, takeWhile_run within stops, dropWhile_run within stops]

/-- What a run is divided from begins with a character of no such class. -/
theorem eq_append_of_span {text : List Char} {first : Char}
    (divided : text.span inClass = (run, first :: rest)) :
    text = run ++ first :: rest ∧ inClass first = false := by
  rw [List.span_eq_takeWhile_dropWhile, Prod.mk.injEq] at divided
  have whole := List.takeWhile_append_dropWhile (p := inClass) (l := text)
  have stop := List.head?_dropWhile_not inClass text
  rw [divided.2] at stop
  rw [divided.1, divided.2] at whole
  exact ⟨whole.symm, stop⟩

/-! ## Blanks -/

theorem trimStart_of_stops {text : List Char} (stops : Stops isBlank text) :
    trimStart text = text := by
  have nothing : ∀ character ∈ ([] : List Char), isBlank character = true := nofun
  exact dropWhile_run nothing stops

/-- Nothing but the blanks at both ends is trimmed. -/
theorem trim_eq {before core after : List Char}
    (blank_before : ∀ character ∈ before, isBlank character = true)
    (blank_after : ∀ character ∈ after, isBlank character = true) (present : core ≠ [])
    (starts : Stops isBlank core) (ends : Stops isBlank core.reverse) :
    trim (before ++ core ++ after) = core := by
  have stops : Stops isBlank (core ++ after) := by
    cases core with
    | nil => exact absurd rfl present
    | cons first others => exact starts
  have backwards : ∀ character ∈ after.reverse, isBlank character = true :=
    fun character member => blank_after character (List.mem_reverse.mp member)
  have front : trimStart (before ++ (core ++ after)) = core ++ after :=
    dropWhile_run blank_before stops
  have back : trimStart (after.reverse ++ core.reverse) = core.reverse :=
    dropWhile_run backwards ends
  rw [trim, List.append_assoc, front, List.reverse_append, back, List.reverse_reverse]

/-- What is trimmed off a text are blanks at both ends. -/
theorem exists_trim (text : List Char) :
    ∃ before after, (∀ character ∈ before, isBlank character = true) ∧
      (∀ character ∈ after, isBlank character = true) ∧ text = before ++ trim text ++ after := by
  have front := List.takeWhile_append_dropWhile (p := isBlank) (l := text)
  have back := List.takeWhile_append_dropWhile (p := isBlank) (l := (trimStart text).reverse)
  refine ⟨text.takeWhile isBlank, ((trimStart text).reverse.takeWhile isBlank).reverse,
    fun _ member => List.mem_takeWhile_imp member, ?_, ?_⟩
  · intro character member
    exact List.mem_takeWhile_imp (List.mem_reverse.mp member)
  · have restored := congrArg List.reverse back
    rw [List.reverse_append, List.reverse_reverse] at restored
    rw [List.append_assoc, trim, trimStart, restored]
    exact front.symm

/-! ## Digits -/

theorem isDigit_of_mem_toDigits {value : Nat} {digit : Char}
    (member : digit ∈ Nat.toDigits 10 value) : digit.isDigit = true :=
  Nat.isDigit_of_mem_toDigits (by decide) (by decide) member

theorem not_isBlank_of_isDigit {character : Char} (digit : character.isDigit = true) :
    isBlank character = false := by
  have range := Char.isDigit_iff_toNat.mp digit
  have low : 48 ≤ character.toNat := range.1
  have high : character.toNat ≤ 57 := range.2
  simp only [isBlank]
  simp
  omega

/-- The value of digits as readers of numbers compute it. -/
theorem foldl_digits (digits : List Char) (value : Nat) :
    digits.foldl (fun value digit => value * 10 + (digit.toNat - '0'.toNat)) value =
      Nat.ofDigitChars 10 digits value := by
  rw [Nat.ofDigitChars_eq_foldl]
  simp only [Nat.mul_comm]

/-- Only zero is written with a zero in front. -/
theorem eq_zero_of_head_toDigits {value : Nat}
    (zero : (Nat.toDigits 10 value).head? = some '0') : value = 0 := by
  induction value using Nat.strongRecOn with
  | ind value hypothesis =>
      rw [Nat.toDigits_eq_if (by decide)] at zero
      split at zero
      · simpa using zero
      · rename_i large
        rw [List.head?_append, List.head?_eq_some_head Nat.toDigits_ne_nil, Option.some_or] at zero
        have smaller := hypothesis (value / 10) (by omega)
          ((List.head?_eq_some_head Nat.toDigits_ne_nil).trans zero)
        omega

end BuildAgent.Text
