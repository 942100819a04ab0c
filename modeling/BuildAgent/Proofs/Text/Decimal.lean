import BuildAgent.Proofs.Text.Runs
import BuildAgent.Text.Decimal
import Mathlib.Data.Int.Basic

/-!
# What decimal numbers spell

`Decimal.Denotes` gives digits their value as one computes it by hand. The digits of a number are
those that `Nat.toDigits` writes, after any number of zeros (`Decimal.denotes_iff`), so a run of
digits has one value and a value many runs. `Decimal.Spells` puts a sign in front.

The readers of numbers accept exactly what is spelled within their bounds
(`Decimal.readNatural_eq_ok_iff`, `Decimal.readInteger_eq_ok_iff`). Each of them looks at the value
of the digits so far and not at the digits, so leading zeros never count against the bound, and it
may stop early because the value only grows (`Decimal.le_ofDigitChars`).
-/

namespace BuildAgent.Text.Decimal

/-- That decimal digits, at least one of them, have a value. -/
structure Denotes (digits : List Char) (value : Nat) : Prop where
  present : digits ≠ []
  decimal : ∀ digit ∈ digits, digit.isDigit = true
  value_eq : Nat.ofDigitChars 10 digits 0 = value

/-- That digits with a sign in front, or without one, spell a number. -/
inductive Spells : List Char → Int → Prop where
  | plain {digits : List Char} {size : Nat} (denotes : Denotes digits size) : Spells digits size
  | plus {digits : List Char} {size : Nat} (denotes : Denotes digits size) :
      Spells ('+' :: digits) size
  | minus {digits : List Char} {size : Nat} (denotes : Denotes digits size) :
      Spells ('-' :: digits) (-size)

variable {digits text : List Char} {bound start value : Nat} {overflow : Fault}

/-! ## Digits and their value -/

theorem le_ofDigitChars (digits : List Char) (start : Nat) :
    start ≤ Nat.ofDigitChars 10 digits start := by
  induction digits generalizing start with
  | nil => exact Nat.le_refl start
  | cons digit digits hypothesis =>
      rw [Nat.ofDigitChars_cons]
      have grown := hypothesis (10 * start + (digit.toNat - '0'.toNat))
      omega

theorem toDigits_digit {digit : Char} (decimal : digit.isDigit = true) :
    digit.toNat - '0'.toNat < 10 ∧ Nat.toDigits 10 (digit.toNat - '0'.toNat) = [digit] := by
  have range := Char.isDigit_iff_toNat.mp decimal
  have zero : '0'.toNat = 48 := rfl
  have nine : '9'.toNat = 57 := rfl
  have small : digit.toNat - '0'.toNat < 10 := by omega
  refine ⟨small, ?_⟩
  rw [Nat.toDigits_of_lt_base small, List.cons.injEq, Char.toNat_inj.symm,
    Nat.toNat_digitChar_of_lt_ten small]
  exact ⟨by omega, rfl⟩

/-- Digits that follow a number without leading zeros are the last digits of its continuation. -/
theorem toDigits_ofDigitChars (positive : 0 < start)
    (decimal : ∀ digit ∈ digits, digit.isDigit = true) :
    Nat.toDigits 10 (Nat.ofDigitChars 10 digits start) = Nat.toDigits 10 start ++ digits := by
  induction digits generalizing start with
  | nil => simp
  | cons digit digits hypothesis =>
      rcases toDigits_digit (decimal digit (.head _)) with ⟨small, written⟩
      rw [Nat.ofDigitChars_cons,
        hypothesis (by omega) fun other member => decimal other (.tail _ member),
        ← Nat.toDigits_append_toDigits (by decide) positive small, written, List.append_assoc,
        List.singleton_append]

/-- The digits of a number are those it is written with, after any number of zeros. -/
theorem denotes_iff :
    Denotes digits value ↔
      ∃ zeros, digits = List.replicate zeros '0' ++ Nat.toDigits 10 value := by
  constructor
  · rintro ⟨present, decimal, rfl⟩
    induction digits with
    | nil => exact absurd rfl present
    | cons first digits hypothesis =>
        have rest : ∀ digit ∈ digits, digit.isDigit = true :=
          fun digit member => decimal digit (.tail _ member)
        rcases toDigits_digit (decimal first (.head _)) with ⟨small, written⟩
        rw [Nat.ofDigitChars_cons, Nat.mul_zero, Nat.zero_add]
        -- A first digit of zero is one more leading zero, unless it is all there is.
        rcases Nat.eq_zero_or_pos (first.toNat - '0'.toNat) with zero | positive
        · rw [zero] at written ⊢
          rcases List.eq_nil_or_concat digits with rfl | ⟨_, _, rfl⟩
          · exact ⟨0, by simp [← written]⟩
          · rcases hypothesis (by simp) rest with ⟨zeros, same⟩
            refine ⟨zeros + 1, ?_⟩
            have isZero : first = '0' := by simpa using written.symm
            rw [List.replicate_succ, List.cons_append, ← same, isZero]
        · refine ⟨0, ?_⟩
          rw [toDigits_ofDigitChars positive rest, written]
          rfl
  · rintro ⟨zeros, rfl⟩
    refine ⟨?_, ?_, ?_⟩
    · simp [Nat.toDigits_ne_nil]
    · intro digit member
      rcases List.mem_append.mp member with zero | other
      · rw [List.eq_of_mem_replicate zero]
        rfl
      · exact isDigit_of_mem_toDigits other
    · rw [Nat.ofDigitChars_append, Nat.ofDigitChars_replicate_zero, Nat.mul_zero,
        Nat.ofDigitChars_ten_toDigits]

theorem Denotes.not_sign (denotes : Denotes digits value) {sign : Char}
    (isSign : sign.isDigit = false) (rest : List Char) : digits ≠ sign :: rest := by
  rintro rfl
  exact absurd (denotes.decimal sign (.head _)) (by simp [isSign])

/-- A text spells one number at most. -/
theorem Spells.unique {count other : Int} (spells : Spells text count)
    (others : Spells text other) : count = other := by
  cases spells with
  | plain denotes =>
      cases others with
      | plain again => rw [← denotes.value_eq, ← again.value_eq]
      | plus again => exact absurd rfl (denotes.not_sign rfl _)
      | minus again => exact absurd rfl (denotes.not_sign rfl _)
  | plus denotes =>
      cases others with
      | plain again => exact absurd rfl (again.not_sign rfl _)
      | plus again => rw [← denotes.value_eq, ← again.value_eq]
  | minus denotes =>
      cases others with
      | plain again => exact absurd rfl (again.not_sign rfl _)
      | minus again => rw [← denotes.value_eq, ← again.value_eq]

theorem Spells.ne_nil {count : Int} (spells : Spells text count) : text ≠ [] := by
  cases spells with
  | plain denotes => exact denotes.present
  | plus denotes => exact nofun
  | minus denotes => exact nofun

/-- No character of a number is blank. -/
theorem Spells.not_isBlank {count : Int} (spells : Spells text count) {character : Char}
    (member : character ∈ text) : isBlank character = false := by
  cases spells with
  | plain denotes => exact not_isBlank_of_isDigit (denotes.decimal character member)
  | plus denotes =>
      rcases List.mem_cons.mp member with rfl | digit
      · rfl
      · exact not_isBlank_of_isDigit (denotes.decimal character digit)
  | minus denotes =>
      rcases List.mem_cons.mp member with rfl | digit
      · rfl
      · exact not_isBlank_of_isDigit (denotes.decimal character digit)

/-- Nothing but the blanks around a number is trimmed. -/
theorem Spells.trim_eq {count : Int} (spells : Spells text count) {before after : List Char}
    (blank_before : ∀ character ∈ before, isBlank character = true)
    (blank_after : ∀ character ∈ after, isBlank character = true) :
    trim (before ++ text ++ after) = text := by
  apply Text.trim_eq blank_before blank_after spells.ne_nil
  · intro character first
    exact spells.not_isBlank (List.mem_of_head? first)
  · intro character last
    exact spells.not_isBlank (List.mem_reverse.mp (List.mem_of_head? last))

/-! ## The readers -/

theorem readDigits_eq_ok_iff (within : start ≤ bound) :
    readDigits bound overflow digits start = .ok value ↔
      (∀ digit ∈ digits, digit.isDigit = true) ∧ Nat.ofDigitChars 10 digits start = value ∧
        value ≤ bound := by
  induction digits generalizing start with
  | nil =>
      simp only [readDigits, Except.ok.injEq, Nat.ofDigitChars_nil]
      constructor
      · rintro rfl
        exact ⟨nofun, rfl, within⟩
      · rintro ⟨_, same, _⟩
        exact same
  | cons character digits hypothesis =>
      rw [readDigits, Nat.ofDigitChars_cons, List.forall_mem_cons, Nat.mul_comm 10]
      cases decimal : character.isDigit with
      | false => simp [digit?, decimal]
      | true =>
          simp only [digit?, decimal, if_true, true_and]
          split
          · rename_i beyond
            have grown := le_ofDigitChars digits (start * 10 + (character.toNat - '0'.toNat))
            constructor
            · nofun
            · rintro ⟨_, rfl, bounded⟩
              exact absurd (Nat.le_trans grown bounded) (Nat.not_le_of_lt beyond)
          · rename_i bounded
            exact hypothesis (Nat.le_of_not_lt bounded)

theorem readDigits_zero_eq_ok_iff (present : digits ≠ []) :
    readDigits bound overflow digits 0 = .ok value ↔ Denotes digits value ∧ value ≤ bound := by
  rw [readDigits_eq_ok_iff (Nat.zero_le bound)]
  constructor
  · rintro ⟨decimal, same, bounded⟩
    exact ⟨⟨present, decimal, same⟩, bounded⟩
  · rintro ⟨denotes, bounded⟩
    exact ⟨denotes.decimal, denotes.value_eq, bounded⟩

/-- A number from zero to the bound is read where it is spelled without a minus sign. -/
theorem readNatural_eq_ok_iff :
    readNatural bound text = .ok value ↔
      value ≤ bound ∧ ∃ digits, (text = digits ∨ text = '+' :: digits) ∧ Denotes digits value := by
  constructor
  · intro read
    rw [readNatural.eq_def] at read
    split at read
    · cases read
    · cases read
    · rename_i digits present
      rcases (readDigits_zero_eq_ok_iff present).mp read with ⟨denotes, bounded⟩
      exact ⟨bounded, digits, .inr rfl, denotes⟩
    · rename_i present _ _
      rcases (readDigits_zero_eq_ok_iff present).mp read with ⟨denotes, bounded⟩
      exact ⟨bounded, text, .inl rfl, denotes⟩
  · rintro ⟨bounded, digits, written, denotes⟩
    have read : readDigits bound .tooLarge digits 0 = .ok value :=
      (readDigits_zero_eq_ok_iff denotes.present).mpr ⟨denotes, bounded⟩
    rcases written with rfl | rfl
    · rw [readNatural.eq_4]
      · exact read
      · exact denotes.present
      · exact denotes.not_sign rfl []
      · exact denotes.not_sign rfl
    · rwa [readNatural.eq_3]
      exact denotes.present

theorem map_readDigits_eq_ok_iff (present : digits ≠ []) {signed : Nat → Int} {count : Int} :
    (readDigits bound overflow digits 0).map signed = .ok count ↔
      ∃ size, Denotes digits size ∧ size ≤ bound ∧ signed size = count := by
  constructor
  · intro mapped
    rcases read : readDigits bound overflow digits 0 with fault | size
    · rw [read] at mapped
      cases mapped
    · rw [read] at mapped
      rcases (readDigits_zero_eq_ok_iff present).mp read with ⟨denotes, bounded⟩
      exact ⟨size, denotes, bounded, Except.ok.inj mapped⟩
  · rintro ⟨size, denotes, bounded, rfl⟩
    rw [(readDigits_zero_eq_ok_iff present).mpr ⟨denotes, bounded⟩]
    rfl

theorem readInteger_minus (present : digits ≠ []) :
    readInteger bound ('-' :: digits) =
      (readDigits (bound + 1) .tooSmall digits 0).map fun size : Nat => -(size : Int) := by
  rw [readInteger.eq_4 bound digits present]
  cases readDigits (bound + 1) .tooSmall digits 0 <;> rfl

/-- A number from `-bound - 1` to the bound is read where it is spelled. -/
theorem readInteger_eq_ok_iff {count : Int} :
    readInteger bound text = .ok count ↔
      Spells text count ∧ -(bound : Int) - 1 ≤ count ∧ count ≤ bound := by
  constructor
  · intro read
    rw [readInteger.eq_def] at read
    split at read
    · cases read
    · cases read
    · cases read
    · rename_i digits present
      rw [← readInteger.eq_4 bound digits present, readInteger_minus present] at read
      rcases (map_readDigits_eq_ok_iff present).mp read with ⟨size, denotes, bounded, rfl⟩
      exact ⟨.minus denotes, by omega, by omega⟩
    · rename_i digits present
      rcases (map_readDigits_eq_ok_iff present).mp read with ⟨size, denotes, bounded, rfl⟩
      exact ⟨.plus denotes, by simp; omega, Int.ofNat_le.mpr bounded⟩
    · rename_i present _ _ _ _
      rcases (map_readDigits_eq_ok_iff present).mp read with ⟨size, denotes, bounded, rfl⟩
      exact ⟨.plain denotes, by simp; omega, Int.ofNat_le.mpr bounded⟩
  · rintro ⟨spells, least, most⟩
    cases spells with
    | plain denotes =>
        rw [readInteger.eq_6]
        · exact (map_readDigits_eq_ok_iff denotes.present).mpr ⟨_, denotes, by omega, rfl⟩
        · exact denotes.present
        · exact denotes.not_sign rfl []
        · exact denotes.not_sign rfl []
        · exact denotes.not_sign rfl
        · exact denotes.not_sign rfl
    | plus denotes =>
        rw [readInteger.eq_5]
        · exact (map_readDigits_eq_ok_iff denotes.present).mpr ⟨_, denotes, by omega, rfl⟩
        · exact denotes.present
    | minus denotes =>
        rw [readInteger_minus denotes.present]
        exact (map_readDigits_eq_ok_iff denotes.present).mpr ⟨_, denotes, by omega, rfl⟩

end BuildAgent.Text.Decimal
