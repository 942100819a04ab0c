import BuildAgent.Proofs.Identifier.Grammar
import Mathlib.Data.String.Basic

/-!
# The first thing wrong with an identifier

A text that spells no identifier is refused, and the fault names the first thing that is wrong with
it. The blanks around the text do not count. What is left is looked at from its front: whether there
is anything at all, whether there is a dash, whether the mark before the first dash is that of the
resource, whether the suffix after it has a length that the provider issues, and at last whether it
has the right characters. `Resource.FirstWrong` says so without the reader, one constructor for each
fault, and the reader refuses a text with a fault exactly if that is its first wrong
(`Identifier.parse_eq_error_iff`). The law about all faults is `Identifier.reports_first_wrong`.

The length of a suffix is that of its encoding in UTF-8, in bytes, while its characters are looked
at one by one. A character that takes several bytes is in no alphabet, so a suffix that has the
right length only because of such characters is refused for the first of them.
-/

namespace BuildAgent

namespace Text

/-- Whether a text is divided at its first dash. -/
def DividesAtDash (text before after : List Char) : Prop :=
  text = before ++ '-' :: after ∧ '-' ∉ before

variable {text before after : List Char}

theorem span_dash (divides : DividesAtDash text before after) :
    text.span (· != '-') = (before, '-' :: after) := by
  rcases divides with ⟨whole, undashed⟩
  have within : ∀ character ∈ before, (character != '-') = true := by
    intro character member
    simpa using fun same : character = '-' => undashed (same ▸ member)
  rw [whole]
  exact span_run within (stops_cons rfl)

theorem divides_of_span {dash : Char} (divided : text.span (· != '-') = (before, dash :: after)) :
    DividesAtDash text before after := by
  rcases eq_append_of_span divided with ⟨whole, stop⟩
  have isDash : dash = '-' := by simpa using stop
  refine ⟨isDash ▸ whole, ?_⟩
  intro member
  rw [List.span_eq_takeWhile_dropWhile, Prod.mk.injEq] at divided
  rw [← divided.1] at member
  simpa using List.mem_takeWhile_imp member

theorem span_undashed (undashed : '-' ∉ text) : text.span (· != '-') = (text, []) := by
  have within : ∀ character ∈ text, (character != '-') = true := by
    intro character member
    simpa using fun same : character = '-' => undashed (same ▸ member)
  have whole : (text ++ []).span (· != '-') = (text, []) := span_run within stops_nil
  rwa [List.append_nil] at whole

theorem undashed_of_span (whole : text.span (· != '-') = (before, [])) : '-' ∉ text := by
  rw [List.span_eq_takeWhile_dropWhile, Prod.mk.injEq] at whole
  intro member
  simpa using List.dropWhile_eq_nil_iff.mp whole.2 '-' member

/-- A text has one first dash at most. -/
theorem DividesAtDash.unique (divides : DividesAtDash text before after) {lead rest : List Char}
    (also : DividesAtDash text lead rest) : before = lead ∧ after = rest := by
  have same := (span_dash divides).symm.trans (span_dash also)
  simpa using same

end Text

namespace Resource

/-- What is first wrong with a text that has no blanks around it. -/
inductive FirstWrong (resource : Resource) (core : List Char) : Identifier.Fault → Prop
  | empty (nothing : core = []) : FirstWrong resource core .empty
  | missingSeparator (present : core ≠ []) (undashed : '-' ∉ core) :
      FirstWrong resource core .missingSeparator
  | wrongMark {before after : List Char} (divides : Text.DividesAtDash core before after)
      (other : before ≠ resource.mark.toList) :
      FirstWrong resource core (.wrongMark resource.mark (String.ofList before))
  | wrongLength {suffix : List Char}
      (divides : Text.DividesAtDash core resource.mark.toList suffix)
      (unissued : (String.ofList suffix).utf8ByteSize ∉ resource.lengths) :
      FirstWrong resource core (.wrongLength (String.ofList suffix).utf8ByteSize)
  | wrongCharacter {fitting rest : List Char} {found : Char}
      (divides : Text.DividesAtDash core resource.mark.toList (fitting ++ found :: rest))
      (issued : (String.ofList (fitting ++ found :: rest)).utf8ByteSize ∈ resource.lengths)
      (within : ∀ character ∈ fitting, character ∈ resource.alphabet.toList)
      (outside : found ∉ resource.alphabet.toList) :
      FirstWrong resource core (.wrongCharacter found)

section Faults

variable {resource : Resource} {core : List Char}

theorem firstWrong_mark_iff {expected actual : String} :
    resource.FirstWrong core (.wrongMark expected actual) ↔
      expected = resource.mark ∧ actual ≠ resource.mark ∧
        ∃ suffix, Text.DividesAtDash core actual.toList suffix := by
  constructor
  · intro wrong
    cases wrong with
    | @wrongMark before after divides other =>
        refine ⟨rfl, ?_, after, by rwa [String.toList_ofList]⟩
        intro same
        apply other
        rw [← same, String.toList_ofList]
  · rintro ⟨rfl, other, suffix, divides⟩
    have wrong : resource.FirstWrong core
        (.wrongMark resource.mark (String.ofList actual.toList)) :=
      .wrongMark divides fun same => other (String.toList_injective same)
    rwa [String.ofList_toList] at wrong

theorem firstWrong_length_iff {bytes : Nat} :
    resource.FirstWrong core (.wrongLength bytes) ↔
      bytes ∉ resource.lengths ∧ ∃ suffix,
        Text.DividesAtDash core resource.mark.toList suffix ∧
          bytes = (String.ofList suffix).utf8ByteSize := by
  constructor
  · intro wrong
    cases wrong with
    | wrongLength divides unissued => exact ⟨unissued, _, divides, rfl⟩
  · rintro ⟨unissued, suffix, divides, rfl⟩
    exact .wrongLength divides unissued

theorem firstWrong_character_iff {found : Char} :
    resource.FirstWrong core (.wrongCharacter found) ↔ ∃ fitting rest,
      Text.DividesAtDash core resource.mark.toList (fitting ++ found :: rest) ∧
        (String.ofList (fitting ++ found :: rest)).utf8ByteSize ∈ resource.lengths ∧
        (∀ character ∈ fitting, character ∈ resource.alphabet.toList) ∧
        found ∉ resource.alphabet.toList := by
  constructor
  · intro wrong
    cases wrong with
    | wrongCharacter divides issued within outside =>
        exact ⟨_, _, divides, issued, within, outside⟩
  · rintro ⟨fitting, rest, divides, issued, within, outside⟩
    exact .wrongCharacter divides issued within outside

end Faults

/-- A text that spells an identifier is divided between its mark and its suffix. -/
theorem Spells.divides {resource : Resource} {text : String} {suffix : List Char}
    (spells : resource.Spells text suffix) :
    Text.DividesAtDash (Text.trim text.toList) resource.mark.toList suffix := by
  apply Text.divides_of_span
  rw [spells.trimmed]
  exact span_lead resource suffix

theorem dash_not_mem_alphabet (resource : Resource) : '-' ∉ resource.alphabet.toList := by
  cases resource <;> decide

theorem allows_eq_false_iff (resource : Resource) (character : Char) :
    resource.allows character = false ↔ character ∉ resource.alphabet.toList := by
  rw [← resource.allows_iff, Bool.not_eq_true]

end Resource

namespace Identifier

variable {resource : Resource}

theorem byteLength_eq_utf8ByteSize (suffix : List Char) :
    byteLength suffix = (String.ofList suffix).utf8ByteSize := by
  rw [String.utf8ByteSize_ofList]
  induction suffix with
  | nil => rfl
  | cons first rest hypothesis =>
      rw [byteLength, hypothesis, String.utf8Len_cons, Nat.add_comm]

/-- The first character of a suffix that is not in the alphabet. -/
theorem find?_misfit {suffix : List Char} {found : Char} :
    suffix.find? (fun character => !resource.allows character) = some found ↔
      ∃ fitting rest, suffix = fitting ++ found :: rest ∧
        (∀ character ∈ fitting, character ∈ resource.alphabet.toList) ∧
        found ∉ resource.alphabet.toList := by
  rw [List.find?_eq_some_iff_append]
  simp only [Bool.not_eq_true', Resource.allows_eq_false_iff, Bool.not_not, Resource.allows_iff]
  constructor
  · rintro ⟨outside, fitting, rest, whole, within⟩
    exact ⟨fitting, rest, whole, within, outside⟩
  · rintro ⟨fitting, rest, whole, within, outside⟩
    exact ⟨outside, fitting, rest, whole, within⟩

/-- Whatever a text is refused for is its first wrong. -/
theorem firstWrong_of_parse {text : String} {fault : Fault}
    (refused : parse resource text = .error fault) :
    resource.FirstWrong (Text.trim text.toList) fault := by
  simp only [parse] at refused
  split at refused
  · rename_i nothing
    cases refused
    exact .empty nothing
  rename_i present
  split at refused
  · rename_i lead whole
    cases refused
    exact .missingSeparator present (Text.undashed_of_span whole)
  rename_i lead dash suffix divided
  have divides := Text.divides_of_span divided
  split at refused
  · rename_i other
    cases refused
    exact .wrongMark divides other
  rename_i marked
  rw [Classical.not_not.mp marked] at divides
  split at refused
  · rename_i issued
    split at refused
    · rename_i found search
      cases refused
      rcases find?_misfit.mp search with ⟨fitting, rest, rfl, within, outside⟩
      rw [byteLength_eq_utf8ByteSize] at issued
      exact .wrongCharacter divides issued within outside
    · cases refused
  · rename_i unissued
    cases refused
    rw [byteLength_eq_utf8ByteSize] at unissued ⊢
    exact .wrongLength divides unissued

/-- A text with something wrong is refused for that. -/
theorem parse_of_firstWrong {text : String} {fault : Fault}
    (wrong : resource.FirstWrong (Text.trim text.toList) fault) :
    parse resource text = .error fault := by
  have present : ∀ {before after}, Text.DividesAtDash (Text.trim text.toList) before after →
      Text.trim text.toList ≠ [] := by
    intro before after divides nothing
    simpa [nothing] using divides.1
  cases wrong with
  | empty nothing => simp only [parse, nothing, if_true]
  | missingSeparator present undashed =>
      simp only [parse, present, if_false, Text.span_undashed undashed]
  | wrongMark divides other =>
      simp only [parse, present divides, if_false, Text.span_dash divides]
      exact if_pos other
  | wrongLength divides unissued =>
      rw [← byteLength_eq_utf8ByteSize] at unissued ⊢
      simp only [parse, present divides, if_false, Text.span_dash divides]
      rw [if_neg (not_not_intro rfl), dif_neg unissued]
  | @wrongCharacter fitting rest found divides issued within outside =>
      have search := find?_misfit.mpr ⟨fitting, rest, rfl, within, outside⟩
      rw [← byteLength_eq_utf8ByteSize] at issued
      simp only [parse, present divides, if_false, Text.span_dash divides]
      rw [if_neg (not_not_intro rfl), dif_pos issued]
      split
      · rename_i other seen
        cases search.symm.trans seen
        rfl
      · rename_i none
        cases search.symm.trans none

/-- **The fault of a text is the first thing wrong with it.** -/
theorem parse_eq_error_iff {text : String} {fault : Fault} :
    parse resource text = .error fault ↔
      resource.FirstWrong (Text.trim text.toList) fault :=
  ⟨firstWrong_of_parse, parse_of_firstWrong⟩

/-- A text is refused exactly if it spells no identifier, and then for one fault. -/
theorem existsUnique_fault {text : String} :
    (¬ ∃ suffix, resource.Spells text suffix) ↔
      ∃! fault, parse resource text = .error fault := by
  constructor
  · intro unspelled
    rcases read : parse resource text with fault | identifier
    · refine ⟨fault, rfl, ?_⟩
      intro other same
      exact (Except.error.inj same).symm
    · rcases spells_of_parse read with ⟨suffix, spells, _⟩
      exact absurd ⟨suffix, spells⟩ unspelled
  · rintro ⟨fault, refused, _⟩ ⟨suffix, spells⟩
    rcases parse_of_spells spells with ⟨identifier, read, _⟩
    cases refused.symm.trans read

/-- With the right mark and the right length, only a character can be wrong. -/
theorem exists_wrongCharacter_iff {text : String} :
    (∃ found, parse resource text = .error (.wrongCharacter found)) ↔
      (¬ ∃ suffix, resource.Spells text suffix) ∧ ∃ suffix,
        Text.DividesAtDash (Text.trim text.toList) resource.mark.toList suffix ∧
          (String.ofList suffix).utf8ByteSize ∈ resource.lengths := by
  constructor
  · rintro ⟨found, refused⟩
    have alone : ∃! fault, parse resource text = .error fault := by
      refine ⟨_, refused, ?_⟩
      intro other same
      exact (Except.error.inj (refused.symm.trans same)).symm
    refine ⟨existsUnique_fault.mpr alone, ?_⟩
    rcases firstWrong_of_parse refused with _ | _ | _ | _ | ⟨divides, issued, _, _⟩
    exact ⟨_, divides, issued⟩
  · rintro ⟨unspelled, suffix, divides, issued⟩
    rcases existsUnique_fault.mp unspelled with ⟨fault, refused, _⟩
    -- Each of the other faults is about a mark or a length that is not there.
    cases firstWrong_of_parse refused with
    | empty nothing => simpa [nothing] using divides.1
    | missingSeparator present undashed =>
        exact absurd (by rw [divides.1]; simp) undashed
    | wrongMark elsewhere other => exact absurd (elsewhere.unique divides).1 other
    | wrongLength also unissued =>
        rw [(also.unique divides).2] at unissued
        exact absurd issued unissued
    | wrongCharacter also _ _ _ => exact ⟨_, refused⟩

/-- **A text that is no identifier is refused for the first thing wrong with it.** Whatever the
text, and with the blanks around it taken off:

* It is called empty if and only if nothing is left.
* The separator is missing if and only if something is left that has no dash.
* The mark is wrong if and only if what stands before the first dash differs from that of the
  resource, in case too, and the fault shows it.
* The length is wrong if and only if the mark is right and the bytes of what follows the first dash
  are of no number that the provider issues, and the fault shows that number.
* A character is wrong if and only if mark and length are right and the alphabet lacks a character
  of the suffix, and the fault shows the first one. This is all that is left: a text with the right
  mark and length is an identifier or has a wrong character.
* A further dash is a wrong character, and the one that is shown if no other comes before it.

So every text either spells an identifier or has exactly one fault. -/
theorem reports_first_wrong (resource : Resource) (text : String) :
    let core := Text.trim text.toList
    let reported := parse resource text
    (reported = .error .empty ↔ core = []) ∧
    (reported = .error .missingSeparator ↔ core ≠ [] ∧ '-' ∉ core) ∧
    (∀ expected actual, reported = .error (.wrongMark expected actual) ↔
      expected = resource.mark ∧ actual ≠ resource.mark ∧
        ∃ suffix, Text.DividesAtDash core actual.toList suffix) ∧
    (∀ bytes, reported = .error (.wrongLength bytes) ↔
      bytes ∉ resource.lengths ∧ ∃ suffix,
        Text.DividesAtDash core resource.mark.toList suffix ∧
          bytes = (String.ofList suffix).utf8ByteSize) ∧
    (∀ found, reported = .error (.wrongCharacter found) ↔ ∃ fitting rest,
      Text.DividesAtDash core resource.mark.toList (fitting ++ found :: rest) ∧
        (String.ofList (fitting ++ found :: rest)).utf8ByteSize ∈ resource.lengths ∧
        (∀ character ∈ fitting, character ∈ resource.alphabet.toList) ∧
        found ∉ resource.alphabet.toList) ∧
    ((∃ found, reported = .error (.wrongCharacter found)) ↔
      (¬ ∃ suffix, resource.Spells text suffix) ∧ ∃ suffix,
        Text.DividesAtDash core resource.mark.toList suffix ∧
          (String.ofList suffix).utf8ByteSize ∈ resource.lengths) ∧
    (∀ fitting rest,
      Text.DividesAtDash core resource.mark.toList (fitting ++ '-' :: rest) →
      (String.ofList (fitting ++ '-' :: rest)).utf8ByteSize ∈ resource.lengths →
        (∃ found, reported = .error (.wrongCharacter found)) ∧
        ((∀ character ∈ fitting, character ∈ resource.alphabet.toList) →
          reported = .error (.wrongCharacter '-'))) ∧
    ((¬ ∃ suffix, resource.Spells text suffix) ↔ ∃! fault, reported = .error fault) := by
  intro core reported
  have isWrong : ∀ fault, reported = .error fault ↔ resource.FirstWrong core fault :=
    fun fault => parse_eq_error_iff
  refine ⟨?_, ?_, ?_, ?_, ?_, ?_, ?_, ?_⟩
  · rw [isWrong]
    exact ⟨fun | .empty nothing => nothing, .empty⟩
  · rw [isWrong]
    exact ⟨fun | .missingSeparator present undashed => ⟨present, undashed⟩,
      fun ⟨present, undashed⟩ => .missingSeparator present undashed⟩
  · intro expected actual
    rw [isWrong, Resource.firstWrong_mark_iff]
  · intro bytes
    rw [isWrong, Resource.firstWrong_length_iff]
  · intro found
    rw [isWrong, Resource.firstWrong_character_iff]
  · exact exists_wrongCharacter_iff
  · intro fitting rest divides issued
    refine ⟨exists_wrongCharacter_iff.mpr ⟨?_, _, divides, issued⟩, fun within => ?_⟩
    · rintro ⟨suffix, spells⟩
      have dashed : '-' ∈ suffix := by
        rw [(spells.divides.unique divides).2]
        simp
      exact resource.dash_not_mem_alphabet (spells.1.2 '-' dashed)
    · exact (isWrong _).mpr (.wrongCharacter divides issued within resource.dash_not_mem_alphabet)
  · exact existsUnique_fault

/-- An instance between blanks, whose suffix has a second dash and eight bytes in seven
characters. -/
def twiceDashed : String :=
  "\u00a0i-0ab-\u00e9cd\n"

/-- It is refused for its second dash, and as a request for spot capacity for its mark. -/
theorem reports_first_wrong_twiceDashed :
    parse .machine twiceDashed = .error (.wrongCharacter '-') ∧
      parse .spotRequest twiceDashed = .error (.wrongMark "sir" "i") := by
  have divides : Text.DividesAtDash (Text.trim twiceDashed.toList) ['i'] "0ab-\u00e9cd".toList :=
    ⟨by decide, by decide⟩
  have issued : (String.ofList "0ab-\u00e9cd".toList).utf8ByteSize ∈ Resource.machine.lengths := by
    rw [← byteLength_eq_utf8ByteSize]
    decide
  rcases reports_first_wrong .machine twiceDashed with ⟨_, _, _, _, _, _, dashed, _⟩
  rcases reports_first_wrong .spotRequest twiceDashed with ⟨_, _, marked, _⟩
  refine ⟨(dashed "0ab".toList "\u00e9cd".toList divides issued).2 ?_, ?_⟩
  · exact Text.forall_mem_of_all (by decide)
  · exact (marked "sir" "i").mpr ⟨rfl, by decide, _, divides⟩

end Identifier

end BuildAgent
