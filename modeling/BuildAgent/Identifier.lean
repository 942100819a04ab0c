import BuildAgent.Document.Datum
import BuildAgent.Text.Blank
import BuildAgent.Text.Quoted

/-!
# Identifiers

The provider names its resources by a mark, a dash and a suffix: `i-0abc123def4567890` is an
instance and `sir-08b93456` a request for spot capacity. Identifiers are assigned by the provider
and never made up here. The type says which resource an identifier names, so one kind cannot stand
for the other, and a value holds the suffix in its canonical form, in lower case.

`parse` reads an identifier as people write it, with blanks around it and letters of either case,
and reports the first thing that is wrong; `text` is the canonical text.
-/

namespace BuildAgent

/-- The resources that have identifiers. -/
inductive Resource where
  | machine
  | spotRequest
  deriving DecidableEq, Repr

namespace Resource

def mark : Resource → String
  | machine => "i"
  | spotRequest => "sir"

def lengths : Resource → List Nat
  | machine => [8, 17]
  | spotRequest => [8]

/-- The characters that a suffix may hold, in either case. -/
def allows : Resource → Char → Bool
  | machine, character =>
    character.isDigit || ('a' ≤ character && character ≤ 'f') ||
      ('A' ≤ character && character ≤ 'F')
  | spotRequest, character => character.isAlphanum

/-- A suffix in canonical form: of a length the provider issues, with lower-case letters. -/
def Canonical (resource : Resource) (suffix : List Char) : Prop :=
  suffix.length ∈ resource.lengths ∧
    ∀ character ∈ suffix, resource.allows character ∧ character.toLower = character

instance (resource : Resource) (suffix : List Char) : Decidable (resource.Canonical suffix) :=
  @instDecidableAnd _ _ inferInstance (List.decidableBAll _ suffix)

theorem toNat_lt_of_allows {resource : Resource} {character : Char}
    (allowed : resource.allows character) : character.toNat < 128 := by
  cases resource <;>
    simp only [allows, Char.isAlphanum] at allowed <;>
    delta Char.isAlpha Char.isUpper Char.isLower Char.isDigit at allowed <;>
    simp only [Bool.or_eq_true, Bool.and_eq_true, decide_eq_true_eq, Char.le_def,
      UInt32.le_iff_toNat_le] at allowed <;>
    simp at allowed <;>
    omega

/-- Lower case keeps an allowed character allowed, and a second time changes nothing. -/
theorem allows_toLower {resource : Resource} {character : Char}
    (allowed : resource.allows character) :
    resource.allows character.toLower ∧ character.toLower.toLower = character.toLower := by
  have ascii : ∀ code < 128, resource.allows (Char.ofNat code) →
      resource.allows (Char.ofNat code).toLower ∧
        (Char.ofNat code).toLower.toLower = (Char.ofNat code).toLower := by
    cases resource <;> decide
  have spelled := ascii character.toNat (toNat_lt_of_allows allowed)
  rw [Char.ofNat_toNat] at spelled
  exact spelled allowed

theorem utf8Size_of_allows {resource : Resource} {character : Char}
    (allowed : resource.allows character) : character.utf8Size = 1 := by
  have small := toNat_lt_of_allows allowed
  simp only [Char.utf8Size, UInt32.le_iff_toNat_le]
  have : character.val.toNat = character.toNat := rfl
  simp only [this]
  simp
  omega

end Resource

/-- An identifier of a resource: the canonical suffix after its mark and the dash. -/
structure Identifier (resource : Resource) where
  suffix : List Char
  canonical : resource.Canonical suffix
  deriving DecidableEq

abbrev InstanceId := Identifier .machine

abbrev SpotRequestId := Identifier .spotRequest

namespace Identifier

/-- What is wrong with the text of an identifier. -/
inductive Fault where
  | empty
  | wrongMark (expected actual : String)
  | missingSeparator
  | wrongLength (bytes : Nat)
  | wrongCharacter (found : Char)
  deriving DecidableEq, Repr

def Fault.message : Fault → String
  | .empty => "ID cannot be empty"
  | .wrongMark expected actual =>
    "invalid ID prefix: expected '" ++ expected ++ "', got '" ++ actual ++ "'"
  | .missingSeparator => "ID missing '-' separator"
  | .wrongLength bytes =>
    "invalid ID length: " ++ toString bytes ++ " characters after the prefix"
  | .wrongCharacter found => "invalid character " ++ Text.quotedCharacter found ++ " in ID"

def Fault.isEmpty : Fault → Bool
  | .empty => true
  | _ => false

/-- The fault of a text that names another kind of resource. -/
def Fault.isMarkFault : Fault → Bool
  | .wrongMark .. => true
  | _ => false

def byteLength : List Char → Nat
  | [] => 0
  | first :: rest => first.utf8Size + byteLength rest

theorem byteLength_eq_length {resource : Resource} {suffix : List Char}
    (allowed : ∀ character ∈ suffix, resource.allows character) :
    byteLength suffix = suffix.length := by
  induction suffix with
  | nil => rfl
  | cons first rest hypothesis =>
    have rest_length := hypothesis fun character member =>
      allowed character (List.mem_cons_of_mem first member)
    have first_size := Resource.utf8Size_of_allows (allowed first List.mem_cons_self)
    rw [byteLength, rest_length, first_size, List.length_cons, Nat.add_comm]

variable {resource : Resource}

/-- The identifier with a suffix that has a right length and right characters, in either case. -/
def ofSuffix (suffix : List Char) (length : byteLength suffix ∈ resource.lengths)
    (allowed : ∀ character ∈ suffix, resource.allows character) : Identifier resource where
  suffix := suffix.map Char.toLower
  canonical := by
    refine ⟨by rwa [List.length_map, ← byteLength_eq_length allowed], ?_⟩
    intro character member
    obtain ⟨letter, letter_member, rfl⟩ := List.mem_map.mp member
    exact Resource.allows_toLower (allowed letter letter_member)

/-- Reads an identifier; the first thing wrong is the fault. -/
def parse (resource : Resource) (text : String) : Except Fault (Identifier resource) :=
  let characters := Text.trim text.toList
  if characters = [] then .error .empty
  else
    match characters.span (· != '-') with
    | (_, []) => .error .missingSeparator
    | (lead, _ :: suffix) =>
      if lead ≠ resource.mark.toList then
        .error (.wrongMark resource.mark (String.ofList lead))
      else if length : byteLength suffix ∈ resource.lengths then
        match search : suffix.find? (fun character => !resource.allows character) with
        | some found => .error (.wrongCharacter found)
        | none =>
          .ok (ofSuffix suffix length fun character member => by
            simpa using List.find?_eq_none.mp search character member)
      else .error (.wrongLength (byteLength suffix))

/-- The identifier that a text holds, if it holds one. -/
def parse? (resource : Resource) (text : String) : Option (Identifier resource) :=
  (parse resource text).toOption

def text (identifier : Identifier resource) : String :=
  resource.mark ++ "-" ++ String.ofList identifier.suffix

def precedes (left right : Identifier resource) : Bool :=
  left.text ≤ right.text

def ofDatum? (resource : Resource) (datum : Datum) : Option (Identifier resource) :=
  datum.text?.bind (parse? resource)

def toDatum (identifier : Identifier resource) : Datum :=
  .text identifier.text

end Identifier

end BuildAgent
