import BuildAgent.Identifier
import BuildAgent.Proofs.Document.Json

/-!
# The grammar of identifiers

`Resource.Spells` says which texts are identifiers, with the marks, lengths and characters of the
provider spelled out: blanks, the mark and a dash, a suffix in either case, blanks. The reader of
identifiers accepts exactly these texts and gives the suffix in lower case, so two texts give the
same identifier exactly when their suffixes differ in case alone, and what is read, from a text or
from a document, is canonical and is read back as it is (`Identifier.follows_grammar`).

Nothing but the suffix is told by a text, because no mark holds a dash and no character of a mark or
a suffix is blank: that is where the trimmed text is divided (`Resource.Spells.trimmed`,
`Resource.span_lead`).
-/

namespace BuildAgent

namespace Resource

/-- The characters that the provider uses in a suffix, in either case. -/
def alphabet : Resource → String
  | machine => "0123456789abcdefABCDEF"
  | spotRequest => "0123456789abcdefghijklmnopqrstuvwxyzABCDEFGHIJKLMNOPQRSTUVWXYZ"

/-- What stands in front of a suffix. -/
def lead : Resource → List Char
  | machine => ['i', '-']
  | spotRequest => ['s', 'i', 'r', '-']

/-- Whether a suffix has a length that the provider issues and nothing but its characters. -/
def Issues (resource : Resource) (suffix : List Char) : Prop :=
  (match resource with
    | machine => suffix.length = 8 ∨ suffix.length = 17
    | spotRequest => suffix.length = 8) ∧
  ∀ character, character ∈ suffix → character ∈ resource.alphabet.toList

/-- Whether a text spells the identifier of a resource with a suffix. -/
def Spells (resource : Resource) (text : String) (suffix : List Char) : Prop :=
  resource.Issues suffix ∧ ∃ before after,
    (∀ character, character ∈ before → Text.isBlank character = true) ∧
    (∀ character, character ∈ after → Text.isBlank character = true) ∧
    text.toList = before ++ (resource.lead ++ suffix) ++ after

/-- Whether a text is the canonical one of an identifier. -/
def IsCanonicalText (resource : Resource) (text : String) : Prop :=
  ∃ suffix, resource.Issues suffix ∧ suffix.map Char.toLower = suffix ∧
    text = String.ofList (resource.lead ++ suffix)

variable {resource : Resource} {suffix : List Char} {text : String}

/-! ## Characters -/

theorem allows_iff (resource : Resource) (character : Char) :
    resource.allows character = true ↔ character ∈ resource.alphabet.toList := by
  have ascii : ∀ code < 128, resource.allows (Char.ofNat code) = true →
      Char.ofNat code ∈ resource.alphabet.toList := by
    cases resource <;> decide +kernel
  have spelled : ∀ character ∈ resource.alphabet.toList, resource.allows character = true :=
    Text.forall_mem_of_all (by cases resource <;> decide)
  constructor
  · intro allowed
    have among := ascii character.toNat (toNat_lt_of_allows allowed)
    rw [Char.ofNat_toNat] at among
    exact among allowed
  · exact spelled character

theorem lead_eq (resource : Resource) : resource.lead = resource.mark.toList ++ ['-'] := by
  cases resource <;> decide

theorem issues_iff : resource.Issues suffix ↔
    suffix.length ∈ resource.lengths ∧ ∀ character ∈ suffix, resource.allows character := by
  simp only [Issues, allows_iff]
  refine and_congr_left' ?_
  cases resource <;> simp [lengths]

/-- No character of an identifier is blank. -/
theorem not_isBlank (issues : resource.Issues suffix) {character : Char}
    (member : character ∈ resource.lead ++ suffix) : Text.isBlank character = false := by
  have leading : ∀ character ∈ resource.lead, Text.isBlank character = false :=
    Text.forall_mem_of_all (by cases resource <;> decide)
  have spelled : ∀ character ∈ resource.alphabet.toList, Text.isBlank character = false :=
    Text.forall_mem_of_all (by cases resource <;> decide)
  rcases List.mem_append.mp member with first | rest
  · exact leading character first
  · exact spelled character (issues.2 character rest)

theorem Issues.lower (issues : resource.Issues suffix) :
    resource.Issues (suffix.map Char.toLower) := by
  rw [issues_iff] at issues ⊢
  refine ⟨by rw [List.length_map]; exact issues.1, ?_⟩
  intro character member
  rcases List.mem_map.mp member with ⟨letter, among, rfl⟩
  exact (allows_toLower (issues.2 letter among)).1

/-! ## Where a text is divided -/

theorem Spells.trimmed (spells : resource.Spells text suffix) :
    Text.trim text.toList = resource.lead ++ suffix := by
  rcases spells with ⟨issues, before, after, blank_before, blank_after, written⟩
  rw [written]
  apply Text.trim_eq blank_before blank_after
  · cases resource <;> nofun
  · intro character first
    exact not_isBlank issues (List.mem_of_head? first)
  · intro character last
    exact not_isBlank issues (List.mem_reverse.mp (List.mem_of_head? last))

theorem spells_of_trimmed (issues : resource.Issues suffix)
    (trimmed : Text.trim text.toList = resource.lead ++ suffix) : resource.Spells text suffix := by
  rcases Text.exists_trim text.toList with ⟨before, after, blank_before, blank_after, written⟩
  rw [trimmed] at written
  exact ⟨issues, before, after, blank_before, blank_after, written⟩

/-- The first dash ends the mark. -/
theorem span_lead (resource : Resource) (suffix : List Char) :
    (resource.lead ++ suffix).span (· != '-') = (resource.mark.toList, '-' :: suffix) := by
  have within : ∀ character ∈ resource.mark.toList, (character != '-') = true :=
    Text.forall_mem_of_all (by cases resource <;> decide)
  rw [lead_eq, List.append_assoc]
  exact Text.span_run within (Text.stops_cons rfl)

/-- No text spells identifiers of two resources. -/
theorem Spells.resource_eq {other : Resource} {rest : List Char}
    (spells : resource.Spells text suffix) (others : other.Spells text rest) :
    resource = other := by
  have same := congrArg (List.span (· != '-')) (spells.trimmed.symm.trans others.trimmed)
  rw [span_lead, span_lead, Prod.mk.injEq] at same
  have marks := same.1
  cases resource <;> cases other <;> first | rfl | exact absurd marks (by decide)

end Resource

namespace Identifier

variable {resource : Resource}

theorem text_eq (identifier : Identifier resource) :
    identifier.text = String.ofList (resource.lead ++ identifier.suffix) := by
  apply String.toList_injective
  simp [text, Resource.lead_eq]

theorem ext_suffix {first second : Identifier resource} (same : first.suffix = second.suffix) :
    first = second := by
  cases first
  cases second
  cases same
  rfl

/-- What a text spells is read, with the suffix in lower case. -/
theorem parse_of_spells {text : String} {suffix : List Char}
    (spells : resource.Spells text suffix) :
    ∃ identifier, parse resource text = .ok identifier ∧
      identifier.suffix = suffix.map Char.toLower := by
  rcases Resource.issues_iff.mp spells.1 with ⟨length, allowed⟩
  have present : resource.lead ++ suffix ≠ [] := by cases resource <;> nofun
  have bytes : byteLength suffix ∈ resource.lengths := by
    rw [byteLength_eq_length allowed]
    exact length
  simp only [parse, spells.trimmed, present, if_false, Resource.span_lead]
  rw [if_neg (not_not_intro rfl), dif_pos bytes]
  split
  · rename_i found search
    have wrong := List.find?_some search
    simp [allowed found (List.mem_of_find?_eq_some search)] at wrong
  · exact ⟨_, rfl, rfl⟩

/-- Nothing is read but what a text spells. -/
theorem spells_of_parse {text : String} {identifier : Identifier resource}
    (parsed : parse resource text = .ok identifier) :
    ∃ suffix, resource.Spells text suffix ∧ identifier.suffix = suffix.map Char.toLower := by
  simp only [parse] at parsed
  split at parsed
  · cases parsed
  split at parsed
  · cases parsed
  rename_i lead dash suffix divided
  split at parsed
  · cases parsed
  rename_i marked
  split at parsed
  swap
  · cases parsed
  rename_i bytes
  split at parsed
  · cases parsed
  rename_i search
  cases parsed
  have allowed : ∀ character ∈ suffix, resource.allows character = true := by
    intro character member
    simpa using List.find?_eq_none.mp search character member
  have issues : resource.Issues suffix := by
    rw [byteLength_eq_length allowed] at bytes
    exact Resource.issues_iff.mpr ⟨bytes, allowed⟩
  have trimmed : Text.trim text.toList = resource.lead ++ suffix := by
    have whole := Text.eq_append_of_span divided
    have isDash : dash = '-' := by simpa using whole.2
    rw [whole.1, isDash, Classical.not_not.mp marked, Resource.lead_eq, List.append_assoc]
    rfl
  exact ⟨suffix, Resource.spells_of_trimmed issues trimmed, rfl⟩

theorem canonical_text (identifier : Identifier resource) :
    resource.Issues identifier.suffix ∧
      identifier.suffix.map Char.toLower = identifier.suffix := by
  rcases identifier.canonical with ⟨length, spelled⟩
  constructor
  · exact Resource.issues_iff.mpr ⟨length, fun character member => (spelled character member).1⟩
  · have same : identifier.suffix.map Char.toLower = identifier.suffix.map id :=
      List.map_congr_left fun character member => (spelled character member).2
    rw [same, List.map_id]

theorem parse_text (identifier : Identifier resource) :
    parse resource identifier.text = .ok identifier := by
  rcases identifier.canonical_text with ⟨issues, lower⟩
  have spells : resource.Spells identifier.text identifier.suffix :=
    ⟨issues, [], [], nofun, nofun, by simp [text_eq]⟩
  rcases parse_of_spells spells with ⟨read, parsed, suffix⟩
  rw [parsed, ext_suffix (suffix.trans lower)]

theorem ofDatum?_toDatum (identifier : Identifier resource) :
    ofDatum? resource identifier.toDatum = some identifier := by
  simp [ofDatum?, toDatum, Datum.text?, parse?, parse_text, Except.toOption]

theorem spells_of_ofDatum? {datum : Datum} {identifier : Identifier resource}
    (held : ofDatum? resource datum = some identifier) :
    ∃ text, datum = .text text ∧ parse resource text = .ok identifier := by
  rcases Option.bind_eq_some_iff.mp held with ⟨text, isText, parsed⟩
  refine ⟨text, ?_, ?_⟩
  · cases datum with
    | text value => exact congrArg Datum.text (Option.some.inj isText)
    | _ => cases isText
  · rw [parse?] at parsed
    rcases read : parse resource text with fault | found
    · rw [read] at parsed
      cases parsed
    · rw [read] at parsed
      cases parsed
      rfl

theorem isCanonicalText (identifier : Identifier resource) :
    resource.IsCanonicalText identifier.text :=
  ⟨identifier.suffix, identifier.canonical_text.1, identifier.canonical_text.2, identifier.text_eq⟩

theorem parse_eq_iff {first second : String} {suffix other : List Char}
    (spells : resource.Spells first suffix) (spells_other : resource.Spells second other) :
    parse resource first = parse resource second ↔
      suffix.map Char.toLower = other.map Char.toLower := by
  rcases parse_of_spells spells with ⟨read, parsed, lower⟩
  rcases parse_of_spells spells_other with ⟨read_other, parsed_other, lower_other⟩
  rw [parsed, parsed_other, Except.ok.injEq, ← lower, ← lower_other]
  exact ⟨congrArg Identifier.suffix, ext_suffix⟩

theorem parse_of_other {text : String} {identifier : Identifier resource}
    (parsed : parse resource text = .ok identifier) {other : Resource}
    (differs : other ≠ resource) : ∃ fault, parse other text = .error fault := by
  rcases parsed_other : parse other text with fault | found
  · exact ⟨fault, rfl⟩
  · rcases spells_of_parse parsed with ⟨_, spells, _⟩
    rcases spells_of_parse parsed_other with ⟨_, spells_other, _⟩
    exact absurd (spells_other.resource_eq spells) differs

/-- **The identifiers are exactly what their grammar says.** A text is read if and only if it spells
an identifier, and what is read has the spelled suffix in lower case. The canonical text of an
identifier, and a JSON document that holds it, give the same identifier back. Two texts give the
same identifier if and only if their suffixes are the same but for their case. No text is read as an
identifier of two resources. Whatever is read from a text or from a document is canonical. -/
theorem follows_grammar (resource : Resource) :
    (∀ text, (∃ identifier, parse resource text = .ok identifier) ↔
      ∃ suffix, resource.Spells text suffix) ∧
    (∀ text suffix, resource.Spells text suffix → ∃ identifier,
      parse resource text = .ok identifier ∧
        identifier.text = String.ofList (resource.lead ++ suffix.map Char.toLower)) ∧
    (∀ identifier : Identifier resource, parse resource identifier.text = .ok identifier ∧
      (Json.read (Json.print identifier.toDatum)).bind (ofDatum? resource) = some identifier) ∧
    (∀ first second suffix other, resource.Spells first suffix → resource.Spells second other →
      (parse resource first = parse resource second ↔
        suffix.map Char.toLower = other.map Char.toLower)) ∧
    (∀ text identifier, parse resource text = .ok identifier →
      ∀ other, other ≠ resource → ∃ fault, parse other text = .error fault) ∧
    (∀ text identifier, parse resource text = .ok identifier →
      resource.IsCanonicalText identifier.text) ∧
    ∀ datum identifier, ofDatum? resource datum = some identifier →
      resource.IsCanonicalText identifier.text ∧
        ∃ text, datum = .text text ∧ parse resource text = .ok identifier := by
  refine ⟨?_, ?_, ?_, ?_, ?_, ?_, ?_⟩
  · intro text
    constructor
    · rintro ⟨identifier, parsed⟩
      rcases spells_of_parse parsed with ⟨suffix, spells, _⟩
      exact ⟨suffix, spells⟩
    · rintro ⟨suffix, spells⟩
      rcases parse_of_spells spells with ⟨identifier, parsed, _⟩
      exact ⟨identifier, parsed⟩
  · intro text suffix spells
    rcases parse_of_spells spells with ⟨identifier, parsed, lower⟩
    exact ⟨identifier, parsed, by rw [text_eq, lower]⟩
  · intro identifier
    refine ⟨identifier.parse_text, ?_⟩
    have plain : identifier.toDatum.IsPlain := .text _
    rw [Json.read_print plain, Option.bind_some, ofDatum?_toDatum]
  · intro first second suffix other spells spells_other
    exact parse_eq_iff spells spells_other
  · intro text identifier parsed other differs
    exact parse_of_other parsed differs
  · intro text identifier parsed
    exact identifier.isCanonicalText
  · intro datum identifier held
    exact ⟨identifier.isCanonicalText, spells_of_ofDatum? held⟩

/-- An instance between blanks, one of them no ASCII character, with letters of either case. -/
def mixedCase : String :=
  "\u00a0i-0ABC123def4567890\n"

/-- It is the instance that the text in lower case names, and no request for spot capacity. -/
theorem follows_grammar_mixedCase :
    Resource.machine.Spells mixedCase "0ABC123def4567890".toList ∧
      parse .machine mixedCase = parse .machine "i-0abc123def4567890" ∧
      (∃ fault, parse .spotRequest mixedCase = .error fault) ∧
      ∃ identifier, ofDatum? .machine (.text mixedCase) = some identifier ∧
        Resource.machine.IsCanonicalText identifier.text := by
  have spells : Resource.machine.Spells mixedCase "0ABC123def4567890".toList :=
    ⟨⟨.inr rfl, Text.forall_mem_of_all (by decide)⟩, ['\u00a0'], ['\n'],
      Text.forall_mem_of_all (by decide), Text.forall_mem_of_all (by decide), by decide⟩
  have spells_lower : Resource.machine.Spells "i-0abc123def4567890" "0abc123def4567890".toList :=
    ⟨⟨.inr rfl, Text.forall_mem_of_all (by decide)⟩, [], [], nofun, nofun, by decide⟩
  rcases follows_grammar .machine with ⟨_, reads, _, same, alone, _, held⟩
  rcases reads _ _ spells with ⟨identifier, parsed, _⟩
  have found : ofDatum? .machine (.text mixedCase) = some identifier := by
    simp [ofDatum?, Datum.text?, parse?, parsed, Except.toOption]
  exact ⟨spells, (same _ _ _ _ spells spells_lower).mpr (by decide),
    alone _ _ parsed .spotRequest (by decide), identifier, found, (held _ _ found).1⟩

end Identifier

end BuildAgent
