import BuildAgent.Agent.Definition
import BuildAgent.Proofs.Text.Decimal
import Mathlib.Algebra.Group.Int.Defs
import Mathlib.Algebra.Group.Nat.Defs

/-!
# Idle minutes as a number and as a text

A user writes the minutes after which an idle node is shut down as a number or as a text.
`IdleMinutes.Spells` says which texts are the same as a number: blanks, a sign, any number of zeros,
the digits of the number, blanks. Both ways of writing lead to the same idle time, and every other
text leads to none (`Definition.idle_limit_as_written`), so a slip of the pen switches the shutdown
off and never brings it forward. An idle time is at least a minute long and at most what 64 bits
hold, and more minutes never make it shorter.

A trimmed text is read as a number where it spells one in the sense of `Decimal.Spells`. What is
left is where a text is trimmed: neither signs nor digits are blank, so a number is trimmed to what
stands between the blanks (`Decimal.Spells.trim_eq`).
-/

namespace BuildAgent

namespace IdleMinutes

/-- Whether a text spells a number of minutes. A number below zero has a minus sign, and any other
may have a plus sign. -/
def Spells (written : String) (count : Int) : Prop :=
  ∃ before sign zeros after,
    (∀ character ∈ before, Text.isBlank character = true) ∧
    (∀ character ∈ after, Text.isBlank character = true) ∧
    (if count < 0 then sign = ['-'] else sign = [] ∨ sign = ['+']) ∧
    written.toList =
      before ++ (sign ++ (List.replicate zeros '0' ++ Nat.toDigits 10 count.natAbs)) ++ after

/-- Trimmed texts that look like numbers at most: nothing at all, a sign alone, a character out of
place, a number that 64 bits do not hold. -/
inductive Misspelt : List Char → Prop where
  | empty : Misspelt []
  | sign (sign : Char) (isSign : sign = '+' ∨ sign = '-') : Misspelt [sign]
  | stray (before after : List Char) (character : Char) (other : character.isDigit = false)
      (inside : before ≠ [] ∨ character ≠ '+' ∧ character ≠ '-') :
      Misspelt (before ++ character :: after)
  | beyond (text : List Char) (count : Int) (spells : Text.Decimal.Spells text count)
      (beyond : count < -2 ^ 63 ∨ 2 ^ 63 ≤ count) : Misspelt text

variable {written : String} {count : Int}

/-! ## Where a text is trimmed -/

theorem Spells.trimmed (spells : Spells written count) :
    Text.Decimal.Spells (Text.trim written.toList) count := by
  rcases spells with ⟨before, sign, zeros, after, blank_before, blank_after, signed, spelt⟩
  have denotes : Text.Decimal.Denotes
      (List.replicate zeros '0' ++ Nat.toDigits 10 count.natAbs) count.natAbs :=
    Text.Decimal.denotes_iff.mpr ⟨zeros, rfl⟩
  have core : Text.Decimal.Spells
      (sign ++ (List.replicate zeros '0' ++ Nat.toDigits 10 count.natAbs)) count := by
    split at signed
    · rename_i negative
      have same : -(count.natAbs : Int) = count := by omega
      have spelled := Text.Decimal.Spells.minus denotes
      rwa [same, ← List.singleton_append, ← signed] at spelled
    · rename_i natural
      have same : (count.natAbs : Int) = count := by omega
      rcases signed with rfl | rfl
      · have spelled := Text.Decimal.Spells.plain denotes
        rwa [same] at spelled
      · have spelled := Text.Decimal.Spells.plus denotes
        rwa [same] at spelled
  rw [spelt, core.trim_eq blank_before blank_after]
  exact core

/-- A text that is trimmed to a number above zero spells it. -/
theorem spells_of_trimmed (trimmed : Text.Decimal.Spells (Text.trim written.toList) count)
    (positive : 0 < count) : Spells written count := by
  rcases Text.exists_trim written.toList with ⟨before, after, blank_before, blank_after, spelt⟩
  generalize Text.trim written.toList = core at trimmed spelt
  have signed (sign : List Char) (allowed : sign = [] ∨ sign = ['+']) :
      if count < 0 then sign = ['-'] else sign = [] ∨ sign = ['+'] := by
    rw [if_neg (by omega)]
    exact allowed
  cases trimmed with
  | plain denotes =>
      rcases Text.Decimal.denotes_iff.mp denotes with ⟨zeros, rfl⟩
      exact ⟨before, [], zeros, after, blank_before, blank_after, signed [] (.inl rfl), spelt⟩
  | plus denotes =>
      rcases Text.Decimal.denotes_iff.mp denotes with ⟨zeros, rfl⟩
      exact ⟨before, ['+'], zeros, after, blank_before, blank_after, signed ['+'] (.inr rfl), spelt⟩
  | minus denotes => omega

/-- What looks like a number at most is none that 64 bits hold. -/
theorem Misspelt.beyond_of_spells {text : List Char} (misspelt : Misspelt text)
    (spells : Text.Decimal.Spells text count) : count < -2 ^ 63 ∨ 2 ^ 63 ≤ count := by
  cases misspelt with
  | empty => exact absurd rfl spells.ne_nil
  | sign sign isSign =>
      exfalso
      have noDigit : sign.isDigit = false := by rcases isSign with rfl | rfl <;> rfl
      cases spells with
      | plain denotes => exact denotes.not_sign noDigit [] rfl
      | plus denotes => exact denotes.present rfl
      | minus denotes => exact denotes.present rfl
  | stray before after character other inside =>
      exfalso
      generalize whole : before ++ character :: after = text at spells
      -- A character that is not the sign itself stands among the digits.
      have elsewhere {sign : Char} {digits : List Char} {size : Nat}
          (denotes : Text.Decimal.Denotes digits size) (different : before = [] → character ≠ sign)
          (same : before ++ character :: after = sign :: digits) : False := by
        cases before with
        | nil =>
            rw [List.nil_append, List.cons.injEq] at same
            exact different rfl same.1
        | cons first others =>
            rw [List.cons_append, List.cons.injEq] at same
            have digit := denotes.decimal character (by simp [← same.2])
            exact absurd (digit.symm.trans other) nofun
      cases spells with
      | plain denotes =>
          have digit := denotes.decimal character (by simp [← whole])
          exact absurd (digit.symm.trans other) nofun
      | plus denotes =>
          exact elsewhere denotes (fun first => (inside.resolve_left (absurd first)).1) whole
      | minus denotes =>
          exact elsewhere denotes (fun first => (inside.resolve_left (absurd first)).2) whole
  | beyond _ same spelt beyond =>
      rw [spells.unique spelt]
      exact beyond

/-! ## Numbers of minutes -/

/-- A text counts where it is trimmed to a number that 64 bits hold. -/
theorem count?_text :
    (text written).count? = some count ↔
      Text.Decimal.Spells (Text.trim written.toList) count ∧ -2 ^ 63 ≤ count ∧ count < 2 ^ 63 := by
  have largest : (Text.Decimal.largestSigned64 : Int) = 2 ^ 63 - 1 := rfl
  have read : (text written).count? = some count ↔
      Text.Decimal.readInteger Text.Decimal.largestSigned64 (Text.trim written.toList) =
        .ok count := by
    simp only [count?]
    cases Text.Decimal.readInteger Text.Decimal.largestSigned64 (Text.trim written.toList) with
    | error fault => simp [Except.toOption]
    | ok found => simp [Except.toOption]
  rw [read, Text.Decimal.readInteger_eq_ok_iff, largest]
  refine and_congr_right' ?_
  omega

end IdleMinutes

namespace Definition

/-- A definition with idle minutes in place of its own. -/
def idlingFor (definition : Definition) (idle : IdleMinutes) : Definition :=
  { definition with idleMinutes := some idle }

variable (definition : Definition)

theorem idleTermination?_of_count {idle : IdleMinutes} {count : Int}
    (counted : idle.count? = some count) :
    (definition.idlingFor idle).idleTermination? =
      if 0 < count then some (min (60 * count.toNat) (2 ^ 64 - 1)) else none := by
  simp only [idlingFor, idleTermination?, Option.bind_some, IdleMinutes.positive?, counted]
  split
  · rw [Option.map_some, Nat.mul_comm]
    rfl
  · rfl

theorem idleTermination?_of_uncounted {idle : IdleMinutes} (uncounted : idle.count? = none) :
    (definition.idlingFor idle).idleTermination? = none := by
  simp [idlingFor, idleTermination?, IdleMinutes.positive?, uncounted]

theorem idleTermination?_of_text {written : String} {seconds : Nat}
    (limited : (definition.idlingFor (.text written)).idleTermination? = some seconds) :
    ∃ count : Int64, IdleMinutes.Spells written count.toInt ∧ 0 < count := by
  rcases counted : (IdleMinutes.text written).count? with _ | count
  · rw [idleTermination?_of_uncounted definition counted] at limited
    cases limited
  · rw [idleTermination?_of_count definition counted] at limited
    split at limited
    · rename_i positive
      rcases IdleMinutes.count?_text.mp counted with ⟨spells, least, most⟩
      have same : (Int64.ofInt count).toInt = count := Int64.toInt_ofInt_of_le least most
      refine ⟨.ofInt count, ?_, ?_⟩
      · rw [same]
        exact IdleMinutes.spells_of_trimmed spells positive
      · rw [Int64.lt_iff_toInt_lt, same]
        exact positive
    · cases limited

theorem idleTermination?_within {seconds : Nat}
    (limited : definition.idleTermination? = some seconds) : 0 < seconds ∧ seconds < 2 ^ 64 := by
  have largest : Text.Decimal.largest64 = 2 ^ 64 - 1 := rfl
  simp only [idleTermination?, Option.map_eq_some_iff, Option.bind_eq_some_iff,
    IdleMinutes.positive?] at limited
  rcases limited with ⟨minutes, ⟨idle, _, count, _, positive⟩, rfl⟩
  split at positive
  · cases positive
    omega
  · cases positive

/-- **Idle minutes mean the same as a number and as a text.** A text that spells a number leads to
the idle time that the number leads to: none unless the number is positive, and otherwise sixty
seconds for each minute, up to what 64 bits hold. A text that spells no number of 64 bits leads to
none, in particular one that is empty, that is a sign alone, or that has a character out of place.
An idle time is never zero and never beyond 64 bits, and more minutes never make it shorter. -/
theorem idle_limit_as_written :
    (∀ (definition : Definition) (count : Int64) (written : String),
      IdleMinutes.Spells written count.toInt →
      (definition.idlingFor (.text written)).idleTermination? =
        (definition.idlingFor (.minutes count)).idleTermination?) ∧
    (∀ (definition : Definition) (count : Int64),
      (definition.idlingFor (.minutes count)).idleTermination? =
        if 0 < count then some (min (60 * count.toInt.toNat) (2 ^ 64 - 1)) else none) ∧
    (∀ (definition : Definition) (written : String),
      (∀ count : Int64, ¬IdleMinutes.Spells written count.toInt) →
      (definition.idlingFor (.text written)).idleTermination? = none) ∧
    (∀ (definition : Definition) (written : String),
      IdleMinutes.Misspelt (Text.trim written.toList) →
      (∀ count : Int64, ¬IdleMinutes.Spells written count.toInt) ∧
        (definition.idlingFor (.text written)).idleTermination? = none) ∧
    (∀ (definition : Definition) (seconds : Nat),
      definition.idleTermination? = some seconds → 0 < seconds ∧ seconds < 2 ^ 64) ∧
    ∀ (definition : Definition) (fewer more : Int64), 0 < fewer → fewer ≤ more →
      ∃ short long, (definition.idlingFor (.minutes fewer)).idleTermination? = some short ∧
        (definition.idlingFor (.minutes more)).idleTermination? = some long ∧ short ≤ long := by
  have counted (definition : Definition) (count : Int64) :
      (definition.idlingFor (.minutes count)).idleTermination? =
        if 0 < count then some (min (60 * count.toInt.toNat) (2 ^ 64 - 1)) else none := by
    have same : (IdleMinutes.minutes count).count? = some count.toInt := rfl
    rw [idleTermination?_of_count definition same]
    simp only [Int64.lt_iff_toInt_lt]
    rfl
  have others (definition : Definition) (written : String)
      (other : ∀ count : Int64, ¬IdleMinutes.Spells written count.toInt) :
      (definition.idlingFor (.text written)).idleTermination? = none := by
    rcases limited : (definition.idlingFor (.text written)).idleTermination? with _ | seconds
    · rfl
    · rcases idleTermination?_of_text definition limited with ⟨count, spells, _⟩
      exact absurd spells (other count)
  refine ⟨?_, counted, others, ?_, ?_, ?_⟩
  · intro definition count written spells
    have same : (IdleMinutes.text written).count? = some count.toInt :=
      IdleMinutes.count?_text.mpr ⟨spells.trimmed, count.le_toInt, count.toInt_lt⟩
    rw [idleTermination?_of_count definition same]
    exact (idleTermination?_of_count definition rfl).symm
  · intro definition written misspelt
    have unspelt (count : Int64) : ¬IdleMinutes.Spells written count.toInt := by
      intro spells
      have least := count.le_toInt
      have most := count.toInt_lt
      have beyond := misspelt.beyond_of_spells spells.trimmed
      omega
    exact ⟨unspelt, others definition written unspelt⟩
  · intro definition seconds limited
    exact idleTermination?_within definition limited
  · intro definition fewer more positive less
    rw [Int64.le_iff_toInt_le] at less
    have still : 0 < more := by
      rw [Int64.lt_iff_toInt_lt] at positive ⊢
      exact Int.lt_of_lt_of_le positive less
    refine ⟨_, _, (counted definition fewer).trans (if_pos positive),
      (counted definition more).trans (if_pos still), ?_⟩
    omega

/-- Half an hour, as somebody may write it. -/
def sloppyMinutes : String :=
  "\u00a0+0030\n"

/-- The text means thirty minutes, and the same digits with a blank between them mean nothing. The
largest number of minutes lasts as long as 64 bits of seconds. -/
theorem idle_limit_as_written_sloppy :
    let node : Definition := { name := "node" }
    (node.idlingFor (.text sloppyMinutes)).idleTermination? = some 1800 ∧
      0 < 1800 ∧ 1800 < 2 ^ 64 ∧
      (node.idlingFor (.text "3 0")).idleTermination? = none ∧
      (node.idlingFor (.text "")).idleTermination? = none ∧
      ∃ short long, (node.idlingFor (.minutes 30)).idleTermination? = some short ∧
        (node.idlingFor (.minutes Int64.maxValue)).idleTermination? = some long ∧
        short ≤ long ∧ long = 2 ^ 64 - 1 := by
  intro node
  rcases idle_limit_as_written with ⟨agree, counted, others, misspelt, within, monotone⟩
  have spells : IdleMinutes.Spells sloppyMinutes (30 : Int64).toInt :=
    ⟨['\u00a0'], ['+'], 2, ['\n'], Text.forall_mem_of_all (by decide),
      Text.forall_mem_of_all (by decide), .inr rfl, by decide⟩
  have limited : (node.idlingFor (.text sloppyMinutes)).idleTermination? = some 1800 :=
    (agree node 30 sloppyMinutes spells).trans (counted node 30)
  have stray : IdleMinutes.Misspelt (Text.trim "3 0".toList) :=
    .stray ['3'] ['0'] ' ' rfl (.inl nofun)
  have empty := misspelt node "" .empty
  rcases monotone node 30 Int64.maxValue (by decide) (by decide) with
    ⟨short, long, first, last, less⟩
  have largest : some long = some (2 ^ 64 - 1) := last.symm.trans (counted node Int64.maxValue)
  exact ⟨limited, (within _ _ limited).1, (within _ _ limited).2, (misspelt node "3 0" stray).2,
    others node "" empty.1, short, long, first, last, less, Option.some.inj largest⟩

end Definition

end BuildAgent
