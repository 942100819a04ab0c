import BuildAgent.Document.Json.Printer
import BuildAgent.Document.Json.Reader
import BuildAgent.Proofs.Text.Runs

/-!
# What is written in JSON is read back

A document of texts, truth values, integers of 64 bits, lists and records comes back from its
written form as it was (`Json.read_print`), and the written form is one line without controls
(`Json.printable_write`). Fractions and calendar dates are left out, since only their text
is kept.

The proof follows the data. The reader of a value takes exactly the characters that were written for
it, whatever follows (`Json.ReadsBack`), as long as what follows can stand after a value. Twice the
length of the written form is fuel enough, since every character read costs at most two calls.
-/

namespace BuildAgent

/-- Data that JSON holds without loss. -/
inductive Datum.IsPlain : Datum → Prop where
  | absent : IsPlain .absent
  | truth (value : Bool) : IsPlain (.truth value)
  | integer (value : Int) (least : -(Text.Decimal.largestSigned64 + 1 : Int) ≤ value)
      (most : value ≤ Text.Decimal.largest64) : IsPlain (.integer value)
  | text (value : String) : IsPlain (.text value)
  | list (items : List Datum) (each : ∀ item, item ∈ items → IsPlain item) : IsPlain (.list items)
  | record (fields : List (String × Datum)) (each : ∀ field, field ∈ fields → IsPlain field.2) :
      IsPlain (.record fields)

namespace Json

/-! ## Space -/

def isSpace (character : Char) : Bool :=
  character == ' ' || character == '\t' || character == '\n' || character == '\r'

theorem skipSpace_of_stops {text : List Char} (stops : Text.Stops isSpace text) :
    skipSpace text = text := by
  cases text with
  | nil => rfl
  | cons first rest =>
      have other := stops first rfl
      simp only [isSpace] at other
      simp [skipSpace, other]

/-! ## Texts -/

theorem hexValue?_hexDigit : ∀ value < 16, hexValue? (hexDigit value) = some value := by
  decide

/-- A control character is read back from the number that is written for it. -/
theorem readEscape_control {character : Char} (control : character.toNat < 0x20)
    (rest : List Char) :
    readEscape ('u' :: '0' :: '0' :: hexDigit (character.toNat / 16) ::
      hexDigit (character.toNat % 16) :: rest) = some (character, rest) := by
  have high := hexValue?_hexDigit (character.toNat / 16) (by omega)
  have low := hexValue?_hexDigit (character.toNat % 16) (by omega)
  have zero : hexValue? '0' = some 0 := rfl
  have value : ((0 * 16 + 0) * 16 + character.toNat / 16) * 16 + character.toNat % 16 =
      character.toNat := by omega
  have unit : readUnit ('0' :: '0' :: hexDigit (character.toNat / 16) ::
      hexDigit (character.toNat % 16) :: rest) = some (character.toNat, rest) := by
    simp only [readUnit, high, low, zero, Option.bind_eq_bind, Option.bind_some, value]
    rfl
  have plain : ¬(0xd800 ≤ character.toNat ∧ character.toNat < 0xdc00) := by omega
  have lone : ¬(0xdc00 ≤ character.toNat ∧ character.toNat < 0xe000) := by omega
  simp only [readEscape, readCodePoint, unit, Option.bind_eq_bind, Option.bind_some, plain, lone,
    if_false, Char.ofNat_toNat]
  rfl

/-- The reader of a text takes what is written for a character as that character. -/
theorem readCharacters_escape (fuel : Nat) (character : Char) (rest : List Char) :
    readCharacters (fuel + 1) (escape character ++ rest) =
      (readCharacters fuel rest).map fun (others, rest) => (character :: others, rest) := by
  have mapped : ∀ found : Option (List Char × List Char),
      (found.bind fun (others, rest) => some (character :: others, rest)) =
        found.map fun (others, rest) => (character :: others, rest) := by
    intro found
    cases found <;> rfl
  simp only [escape]
  -- Seven characters have an escape of their own.
  iterate 7
    split
    · subst_vars
      exact mapped _
  split
  · rename_i control
    simp only [List.cons_append, List.nil_append, readCharacters, readEscape_control control]
    exact mapped _
  · rename_i quote backslash _ _ _ _ _ printable
    simp only [List.cons_append, List.nil_append, readCharacters, quote, backslash, printable,
      if_false]
    exact mapped _

theorem readCharacters_escaped (characters rest : List Char) (fuel : Nat)
    (enough : characters.length < fuel) :
    readCharacters fuel (characters.flatMap escape ++ '"' :: rest) = some (characters, rest) := by
  induction characters generalizing fuel with
  | nil =>
      cases fuel with
      | zero => omega
      | succ fuel => rfl
  | cons character others hypothesis =>
      cases fuel with
      | zero => omega
      | succ fuel =>
          rw [List.flatMap_cons, List.append_assoc, readCharacters_escape,
            hypothesis fuel (Nat.lt_of_succ_lt_succ enough)]
          rfl

theorem length_le_length_escaped (characters : List Char) :
    characters.length ≤ (characters.flatMap escape).length := by
  induction characters with
  | nil => exact Nat.le_refl _
  | cons character others hypothesis =>
      have spelled : 1 ≤ (escape character).length := by
        simp only [escape]
        repeat' split
        all_goals simp
      simp only [List.flatMap_cons, List.length_append, List.length_cons]
      omega

theorem readText_escaped (text : String) (rest : List Char) :
    readText (text.toList.flatMap escape ++ '"' :: rest) = some (text, rest) := by
  have shorter := length_le_length_escaped text.toList
  have enough : text.toList.length < (text.toList.flatMap escape ++ '"' :: rest).length + 1 := by
    simp only [List.length_append, List.length_cons]
    omega
  simp only [readText, readCharacters_escaped _ _ _ enough, Option.map_some, String.ofList_toList]

theorem writeText_append (text : String) (rest : List Char) :
    writeText text ++ rest = '"' :: (text.toList.flatMap escape ++ '"' :: rest) := by
  simp [writeText]

/-! ## Numbers -/

/-- That a text begins with nothing but what may follow a value. -/
def Ends (rest : List Char) : Prop :=
  ∀ character, rest.head? = some character →
    character = ',' ∨ character = ']' ∨ character = '\x7d'

theorem Ends.stops {inClass : Char → Bool} {rest : List Char} (ends : Ends rest)
    (comma : inClass ',' = false) (bracket : inClass ']' = false)
    (brace : inClass '\x7d' = false) : Text.Stops inClass rest := by
  intro character first
  rcases ends character first with rfl | rfl | rfl <;> assumption

theorem readFraction_of_ends {rest : List Char} (ends : Ends rest) :
    readFraction rest = some ([], rest) := by
  unfold readFraction
  split
  · rcases ends '.' rfl with other | other | other <;> cases other
  · rfl

theorem readExponent_of_ends {rest : List Char} (ends : Ends rest) :
    readExponent rest = some ([], rest) := by
  cases rest with
  | nil => rfl
  | cons mark others => rcases ends mark rfl with rfl | rfl | rfl <;> rfl

theorem readDigits_toDigits (value : Nat) {rest : List Char} (ends : Ends rest) :
    readDigits (Nat.toDigits 10 value ++ rest) = some (Nat.toDigits 10 value, rest) := by
  have run : (Nat.toDigits 10 value ++ rest).span Char.isDigit = (Nat.toDigits 10 value, rest) :=
    Text.span_run (fun _ => Text.isDigit_of_mem_toDigits) (ends.stops rfl rfl rfl)
  rw [readDigits, run]
  generalize written : Nat.toDigits 10 value = digits
  cases digits with
  | nil => exact absurd written Nat.toDigits_ne_nil
  | cons first others => rfl

theorem valueOf_toDigits (value : Nat) : valueOf (Nat.toDigits 10 value) = value :=
  (Text.foldl_digits _ 0).trans Nat.ofDigitChars_ten_toDigits

/-- No number is written with a zero in front of other digits. -/
theorem not_leading_zero (value : Nat) :
    ¬(1 < (Nat.toDigits 10 value).length ∧ (Nat.toDigits 10 value).head? = some '0') := by
  rintro ⟨long, zero⟩
  rw [Text.eq_zero_of_head_toDigits zero] at long
  simp at long

theorem readNumber_natural {value : Nat} (most : value ≤ Text.Decimal.largest64) {rest : List Char}
    (ends : Ends rest) :
    readNumber false (Nat.toDigits 10 value ++ rest) = some (.integer value, rest) := by
  simp [readNumber, readDigits_toDigits value ends, not_leading_zero, readFraction_of_ends ends,
    readExponent_of_ends ends, valueOf_toDigits, most]

theorem readNumber_negative {value : Nat} (most : value ≤ Text.Decimal.largestSigned64)
    {rest : List Char} (ends : Ends rest) :
    readNumber true (Nat.toDigits 10 (value + 1) ++ rest) =
      some (.integer (.negSucc value), rest) := by
  simp [readNumber, readDigits_toDigits _ ends, not_leading_zero, readFraction_of_ends ends,
    readExponent_of_ends ends, valueOf_toDigits, most, Int.negSucc_eq]

/-! ## Values -/

section Values

-- A value of known form is written and read by computation.
attribute [local simp] write writeItems writeFields readValue readItems readFields

/-- That the reader takes what is written for a value as that value, whatever follows. -/
def ReadsBack (datum : Datum) : Prop :=
  ∀ fuel rest, 2 * (write datum).length ≤ fuel → Ends rest →
    readValue fuel (write datum ++ rest) = some (datum, rest)

/-- How the written form of a value begins. -/
structure Begins (text : List Char) : Prop where
  present : text ≠ []
  stops : Text.Stops isSpace text
  unclosed : text.head? ≠ some ']'

theorem begins_cons {first : Char} {rest : List Char} (space : isSpace first = false)
    (bracket : first ≠ ']') : Begins (first :: rest) :=
  ⟨nofun, Text.stops_cons space, by simpa using bracket⟩

theorem begins_of_digit {first : Char} {rest : List Char} (digit : first.isDigit = true) :
    Begins (first :: rest) := by
  apply begins_cons
  · simp only [isSpace, Bool.or_eq_false_iff, beq_eq_false_iff_ne]
    refine ⟨⟨⟨?_, ?_⟩, ?_⟩, ?_⟩ <;> rintro rfl <;> cases digit
  · rintro rfl
    cases digit

theorem begins_write {datum : Datum} (plain : datum.IsPlain) : Begins (write datum) := by
  cases plain with
  | integer value least most =>
      cases value with
      | ofNat value =>
          simp only [write, writeInteger]
          generalize written : Nat.toDigits 10 value = digits
          cases digits with
          | nil => exact absurd written Nat.toDigits_ne_nil
          | cons first others =>
              exact begins_of_digit (Text.isDigit_of_mem_toDigits (by rw [written]; exact .head _))
      | negSucc value =>
          simp only [write, writeInteger]
          exact begins_cons rfl (by decide)
  | truth value =>
      cases value <;> simp only [write] <;> exact begins_cons rfl (by decide)
  | _ =>
      simp only [write, writeText, List.cons_append]
      exact begins_cons rfl (by decide)

theorem Begins.append {text : List Char} (begins : Begins text) (rest : List Char) :
    Begins (text ++ rest) := by
  cases text with
  | nil => exact absurd rfl begins.present
  | cons first others => exact ⟨nofun, begins.stops, begins.unclosed⟩

/-- With any fuel left the reader looks at the first character. -/
theorem readValue_digit {fuel : Nat} {first : Char} {rest : List Char}
    (digit : first.isDigit = true) :
    readValue (fuel + 1) (first :: rest) = readNumber false (first :: rest) := by
  have quote : first ≠ '"' := by rintro rfl; cases digit
  have bracket : first ≠ '[' := by rintro rfl; cases digit
  have brace : first ≠ '\x7b' := by rintro rfl; cases digit
  have minus : first ≠ '-' := by rintro rfl; cases digit
  simp only [readValue, skipSpace_of_stops (begins_of_digit digit).stops, quote, bracket, brace,
    minus, if_false, digit, if_true]

theorem readsBack_integer {value : Int}
    (least : -(Text.Decimal.largestSigned64 + 1 : Int) ≤ value)
    (most : value ≤ Text.Decimal.largest64) : ReadsBack (.integer value) := by
  intro fuel rest enough ends
  cases value with
  | ofNat value =>
      simp only [write, writeInteger] at enough ⊢
      have natural := readNumber_natural (Int.ofNat_le.mp most) ends
      generalize written : Nat.toDigits 10 value = digits at enough natural ⊢
      cases digits with
      | nil => exact absurd written Nat.toDigits_ne_nil
      | cons first others =>
          have member : first ∈ Nat.toDigits 10 value := by
            rw [written]
            exact .head _
          have digit := Text.isDigit_of_mem_toDigits member
          cases fuel with
          | zero => simp at enough
          | succ fuel => exact (readValue_digit digit).trans natural
  | negSucc value =>
      have small : value ≤ Text.Decimal.largestSigned64 := by omega
      have negative := readNumber_negative small ends
      cases fuel with
      | zero => simp [writeInteger] at enough
      | succ fuel => exact negative

theorem readsBack_text (value : String) : ReadsBack (.text value) := by
  intro fuel rest enough ends
  cases fuel with
  | zero => simp [writeText] at enough
  | succ fuel =>
      have back := readText_escaped value rest
      simp only [write, writeText_append]
      exact congrArg (Option.map fun found => (Datum.text found.1, found.2)) back

theorem ends_cons {character : Char}
    (closes : character = ',' ∨ character = ']' ∨ character = '\x7d') (rest : List Char) :
    Ends (character :: rest) := by
  rintro first ⟨⟩
  exact closes

theorem readItems_write {items : List Datum} (present : items ≠ [])
    (each : ∀ item, item ∈ items → ReadsBack item) (fuel : Nat) (rest : List Char)
    (enough : 2 * (writeItems items).length + 1 ≤ fuel) :
    readItems fuel (writeItems items ++ ']' :: rest) = some (items, rest) := by
  induction items generalizing fuel with
  | nil => exact absurd rfl present
  | cons item others hypothesis =>
      have back := each item List.mem_cons_self
      cases fuel with
      | zero => omega
      | succ fuel =>
          cases others with
          | nil =>
              simp only [writeItems] at enough ⊢
              have first := back fuel (']' :: rest) (by omega) (ends_cons (by simp) rest)
              simp [first, skipSpace]
          | cons next others =>
              simp only [writeItems, List.length_append, List.length_cons] at enough
              have first := back fuel (',' :: (writeItems (next :: others) ++ ']' :: rest))
                (by omega) (ends_cons (by simp) _)
              have more := hypothesis nofun
                (fun item member => each item (List.mem_cons_of_mem _ member)) fuel (by omega)
              simp [first, more, skipSpace]

theorem readFields_name (fuel : Nat) (name : String) (text : List Char) :
    readFields (fuel + 1) (writeText name ++ ':' :: text) = (do
      let (value, rest) ← readValue fuel text
      match skipSpace rest with
      | ',' :: rest =>
        let (others, rest) ← readFields fuel rest
        return ((name, value) :: others, rest)
      | '\x7d' :: rest => return ([(name, value)], rest)
      | _ => none) := by
  have named := readText_escaped name (':' :: text)
  rw [writeText_append]
  generalize name.toList.flatMap escape ++ '"' :: ':' :: text = written at named ⊢
  have opened : skipSpace ('"' :: written) = '"' :: written := rfl
  simp only [readFields, opened, named]
  rfl

theorem readFields_write {fields : List (String × Datum)} (present : fields ≠ [])
    (each : ∀ field, field ∈ fields → ReadsBack field.2) (fuel : Nat) (rest : List Char)
    (enough : 2 * (writeFields fields).length + 1 ≤ fuel) :
    readFields fuel (writeFields fields ++ '\x7d' :: rest) = some (fields, rest) := by
  induction fields generalizing fuel with
  | nil => exact absurd rfl present
  | cons field others hypothesis =>
      rcases field with ⟨name, value⟩
      have back : ReadsBack value := each (name, value) List.mem_cons_self
      cases fuel with
      | zero => omega
      | succ fuel =>
          cases others with
          | nil =>
              simp only [writeFields, List.length_append, List.length_cons] at enough
              have first := back fuel ('\x7d' :: rest) (by omega) (ends_cons (by simp) rest)
              rw [writeFields, List.append_assoc, List.cons_append, readFields_name, first]
              rfl
          | cons next others =>
              simp only [writeFields, List.length_append, List.length_cons] at enough
              have first := back fuel (',' :: (writeFields (next :: others) ++ '\x7d' :: rest))
                (by omega) (ends_cons (by simp) _)
              have more := hypothesis nofun
                (fun field member => each field (List.mem_cons_of_mem _ member)) fuel (by omega)
              have comma : skipSpace (',' :: (writeFields (next :: others) ++ '\x7d' :: rest)) =
                  ',' :: (writeFields (next :: others) ++ '\x7d' :: rest) := rfl
              rw [writeFields, List.append_assoc, List.append_assoc, List.cons_append,
                List.cons_append, readFields_name, first]
              · simp only [Option.bind_eq_bind, Option.bind_some, comma, more]
                rfl
              · nofun

theorem readValue_list {text : List Char} (begins : Begins text) (fuel : Nat) :
    readValue (fuel + 1) ('[' :: text) =
      (readItems fuel text).map fun (items, rest) => (.list items, rest) := by
  have opened : skipSpace ('[' :: text) = '[' :: text := rfl
  simp only [readValue, opened, skipSpace_of_stops begins.stops]
  split
  · contradiction
  split
  · split
    · rename_i closed
      exact absurd rfl begins.unclosed
    · rfl
  · contradiction

theorem readsBack_list {items : List Datum} (plain : ∀ item, item ∈ items → item.IsPlain)
    (each : ∀ item, item ∈ items → ReadsBack item) : ReadsBack (.list items) := by
  intro fuel rest enough ends
  simp only [write, List.length_cons, List.length_append, List.length_nil] at enough
  cases fuel with
  | zero => omega
  | succ fuel =>
      cases items with
      | nil => rfl
      | cons first others =>
          have begins : Begins (writeItems (first :: others) ++ ']' :: rest) := by
            have one := begins_write (plain first List.mem_cons_self)
            cases others with
            | nil => exact one.append _
            | cons next others =>
                rw [writeItems, List.append_assoc]
                · exact one.append _
                · nofun
          have back := readItems_write (List.cons_ne_nil _ _) each fuel rest (by omega)
          simp only [write, List.cons_append, List.append_assoc, List.nil_append]
          rw [readValue_list begins, back]
          rfl

theorem writeFields_cons (name : String) (value : Datum) (others : List (String × Datum))
    (rest : List Char) : ∃ text, writeFields ((name, value) :: others) ++ rest = '"' :: text := by
  cases others with
  | nil => exact ⟨_, by rw [writeFields, List.append_assoc, writeText_append]⟩
  | cons next others =>
      rw [writeFields, List.append_assoc, List.append_assoc, writeText_append]
      · exact ⟨_, rfl⟩
      · nofun

theorem readsBack_record {fields : List (String × Datum)}
    (each : ∀ field, field ∈ fields → ReadsBack field.2) : ReadsBack (.record fields) := by
  intro fuel rest enough ends
  simp only [write, List.length_cons, List.length_append, List.length_nil] at enough
  cases fuel with
  | zero => omega
  | succ fuel =>
      cases fields with
      | nil => rfl
      | cons field others =>
          rcases field with ⟨name, value⟩
          have back := readFields_write (List.cons_ne_nil _ _) each fuel rest (by omega)
          rcases writeFields_cons name value others ('\x7d' :: rest) with ⟨text, begins⟩
          have opened : readValue (fuel + 1) ('\x7b' :: '"' :: text) =
              (readFields fuel ('"' :: text)).map fun (fields, rest) => (.record fields, rest) :=
            rfl
          simp only [write, List.cons_append, List.append_assoc, List.nil_append]
          rw [begins] at back ⊢
          rw [opened, back]
          rfl

theorem readsBack {datum : Datum} (plain : datum.IsPlain) : ReadsBack datum := by
  induction plain with
  | absent =>
      rintro (_ | fuel) rest enough ends
      · simp at enough
      · rfl
  | truth value =>
      rintro (_ | fuel) rest enough ends
      · cases value <;> simp at enough
      · cases value <;> rfl
  | integer value least most => exact readsBack_integer least most
  | text value => exact readsBack_text value
  | list items plain each => exact readsBack_list plain each
  | record fields plain each => exact readsBack_record each

end Values

/-- **A document without fractions and dates is read back as it was written.** -/
theorem read_print {datum : Datum} (plain : datum.IsPlain) : read (print datum) = some datum := by
  have back := readsBack plain (2 * (write datum).length + 2) [] (by omega) nofun
  rw [List.append_nil] at back
  simp only [read, print, String.toList_ofList, back]
  rfl

/-! ## One line -/

/-- That no control stands in a text. -/
def Printable (text : List Char) : Prop :=
  ∀ character, character ∈ text → 0x20 ≤ character.toNat

theorem Printable.cons {first : Char} {rest : List Char} (printable : 0x20 ≤ first.toNat)
    (others : Printable rest) : Printable (first :: rest) := by
  rintro character (_ | ⟨_, member⟩)
  · exact printable
  · exact others character member

theorem Printable.append {front back : List Char} (first : Printable front)
    (second : Printable back) : Printable (front ++ back) := by
  intro character member
  rcases List.mem_append.mp member with member | member
  · exact first character member
  · exact second character member

theorem printable_nil : Printable [] := nofun

theorem printable_hexDigit : ∀ value < 16, 0x20 ≤ (hexDigit value).toNat := by
  decide

theorem printable_escape (character : Char) : Printable (escape character) := by
  simp only [escape]
  iterate 7
    split
    · simp [Printable]
  split
  · rename_i control
    have high := printable_hexDigit (character.toNat / 16) (by omega)
    have low := printable_hexDigit (character.toNat % 16) (by omega)
    simpa [Printable] using ⟨high, low⟩
  · rename_i printable
    exact .cons (Nat.le_of_not_lt printable) printable_nil

theorem printable_writeText (text : String) : Printable (writeText text) := by
  refine .append (.cons (by decide) ?_) (.cons (by decide) printable_nil)
  intro character member
  rcases List.mem_flatMap.mp member with ⟨original, _, spelled⟩
  exact printable_escape original character spelled

theorem printable_toDigits (value : Nat) : Printable (Nat.toDigits 10 value) := by
  intro digit member
  have isDigit := Text.isDigit_of_mem_toDigits member
  simp only [Char.isDigit, Bool.and_eq_true, decide_eq_true_eq, UInt32.le_iff_toNat_le] at isDigit
  exact Nat.le_trans (by decide) isDigit.1

theorem printable_writeItems {items : List Datum}
    (each : ∀ item, item ∈ items → Printable (write item)) : Printable (writeItems items) := by
  induction items with
  | nil => exact printable_nil
  | cons item others hypothesis =>
      have first := each item List.mem_cons_self
      have rest := hypothesis fun other member => each other (List.mem_cons_of_mem _ member)
      cases others with
      | nil => exact first
      | cons next others => exact first.append (.cons (by decide) rest)

theorem printable_writeFields {fields : List (String × Datum)}
    (each : ∀ field, field ∈ fields → Printable (write field.2)) :
    Printable (writeFields fields) := by
  induction fields with
  | nil => exact printable_nil
  | cons field others hypothesis =>
      rcases field with ⟨name, value⟩
      have colon : Printable (':' :: write value) :=
        .cons (by decide) (each (name, value) List.mem_cons_self)
      have first := (printable_writeText name).append colon
      have rest := hypothesis fun other member => each other (List.mem_cons_of_mem _ member)
      cases others with
      | nil => exact first
      | cons next others => exact first.append (.cons (by decide) rest)

/-- **What is written stands on one line, without a control.** -/
theorem printable_write {datum : Datum} (plain : datum.IsPlain) : Printable (write datum) := by
  induction plain with
  | absent => simp [write, Printable]
  | truth value => cases value <;> simp [write, Printable]
  | integer value least most =>
      cases value with
      | ofNat value => exact printable_toDigits value
      | negSucc value => exact .cons (by decide) (printable_toDigits (value + 1))
  | text value => exact printable_writeText value
  | list items plain each =>
      exact .cons (by decide) ((printable_writeItems each).append (.cons (by decide) printable_nil))
  | record fields plain each =>
      exact .cons (by decide)
        ((printable_writeFields each).append (.cons (by decide) printable_nil))

end Json

end BuildAgent
