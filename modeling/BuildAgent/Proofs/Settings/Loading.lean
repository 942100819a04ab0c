import BuildAgent.Proofs.Text.Decimal
import BuildAgent.Settings
import Mathlib.Algebra.Group.Nat.Defs

/-!
# Which settings are loaded

`Settings.load` accepts a source of variables exactly if the definition is set and every duration
that is set is a whole number of seconds which 64 bits hold. `Loads` has one constructor for each
way in which it can end, with everything that was looked up on the way, and `load_loads` is the one
walk through its lines. The main theorem, `load_iff_well_formed`, says what is accepted, what the
settings are then (`IsReadFrom`), that no variable reaches into the setting of another, and which
variable a refusal names (`Culprit`).

What a duration amounts to is a relation between texts and numbers (`Gives`) that does not mention
the reader. A number is spelled with any number of zeros and perhaps a plus sign, but a text gives
one number at most (`Gives.unique`), and on this rests that settings from two sources agree wherever
the sources do.
-/

namespace BuildAgent.Settings

/-- The variables that hold durations, in the order in which they are read. -/
def Variable.durations : List Variable :=
  [.idleCheckInterval, .freshness, .rebootInitialDelay, .rebootRecheck]

/-- That a text gives a number of seconds which 64 bits hold: apart from blanks around them there
are digits only, at least one, perhaps after a plus sign. -/
def Gives (text : String) (value : Nat) : Prop :=
  value < 2 ^ 64 ∧
    ∃ digits, (Text.trim text.toList = digits ∨ Text.trim text.toList = '+' :: digits) ∧
      Text.Decimal.Denotes digits value

/-- That a variable is not set, or gives a number of seconds. -/
def WellFormed (lookup : String → Option String) (setting : Variable) : Prop :=
  ∀ text, lookup setting.name = some text → ∃ value, Gives text value

/-- The number of seconds that a variable stands for: its own, or the standard one. -/
inductive Amounts (lookup : String → Option String) (setting : Variable) (standard : Nat) :
    Nat → Prop where
  | unset (unset : lookup setting.name = none) : Amounts lookup setting standard standard
  | set {text : String} {value : Nat} (set : lookup setting.name = some text)
      (gives : Gives text value) : Amounts lookup setting standard value

/-- That settings are what the variables say, and otherwise the standard. -/
structure IsReadFrom (settings : Settings) (lookup : String → Option String) : Prop where
  definitionPath : lookup Variable.definition.name = some settings.definitionPath
  cloudName : settings.cloudName = (lookup Variable.cloud.name).getD "default"
  idleCheck : ∃ value, Amounts lookup .idleCheckInterval 60 value ∧
    settings.idleCheckSeconds = max value 1
  freshness : ∃ value, Amounts lookup .freshness 20 value ∧
    settings.timings.freshness = value * 1000
  initialDelay : ∃ value, Amounts lookup .rebootInitialDelay 30 value ∧
    settings.timings.reboot.initialDelay = value * 1000
  recheck : ∃ value, Amounts lookup .rebootRecheck 5 value ∧
    settings.timings.reboot.pendingRecheck = value * 1000
  tireless : settings.timings.reboot.maxLaunchFailures = none
  logLevel : settings.logLevel = (lookup Variable.logLevel.name).getD "info"

/-- The variable that is at fault: the definition if it is not set, and otherwise the first duration
that is malformed. -/
inductive Culprit (lookup : String → Option String) : Variable → Prop where
  | definition (unset : lookup Variable.definition.name = none) : Culprit lookup .definition
  | duration {path : String} {setting : Variable} {earlier later : List Variable}
      (set : lookup Variable.definition.name = some path)
      (order : Variable.durations = earlier ++ setting :: later)
      (sound : ∀ other ∈ earlier, WellFormed lookup other)
      (malformed : ¬WellFormed lookup setting) : Culprit lookup setting

/-- What the settings hold for a variable: a text, or a number of seconds or milliseconds. -/
def held (settings : Settings) : Variable → String ⊕ Nat
  | .definition => .inl settings.definitionPath
  | .cloud => .inl settings.cloudName
  | .idleCheckInterval => .inr settings.idleCheckSeconds
  | .freshness => .inr settings.timings.freshness
  | .rebootInitialDelay => .inr settings.timings.reboot.initialDelay
  | .rebootRecheck => .inr settings.timings.reboot.pendingRecheck
  | .logLevel => .inl settings.logLevel

/-- The variable that a fault is about. -/
def Fault.setting : Fault → Variable
  | .missingDefinition => .definition
  | .malformed setting _ => setting

/-- That the wording of a fault has the name of a variable in it. -/
def Fault.Names (fault : Fault) (setting : Variable) : Prop :=
  ∃ before after, fault.message = before ++ setting.name ++ after

variable {lookup other : String → Option String} {setting : Variable} {settings : Settings}

/-! ## One duration -/

theorem Gives.unique {text : String} {value again : Nat} (gives : Gives text value)
    (same : Gives text again) : value = again := by
  have spelled {value : Nat} (gives : Gives text value) :
      Text.Decimal.Spells (Text.trim text.toList) value := by
    rcases gives with ⟨_, digits, written | written, denotes⟩
    · rw [written]
      exact .plain denotes
    · rw [written]
      exact .plus denotes
  exact Int.ofNat_inj.mp ((spelled gives).unique (spelled same))

theorem Amounts.unique {standard value again : Nat}
    (amounts : Amounts lookup setting standard value)
    (same : Amounts other setting standard again)
    (agree : other setting.name = lookup setting.name) : again = value := by
  cases amounts with
  | unset unset =>
      cases same with
      | unset => rfl
      | set set => simp [agree, unset] at set
  | set set gives =>
      cases same with
      | unset unset => simp [agree, set] at unset
      | set again givesAgain =>
          rw [agree, set, Option.some.injEq] at again
          subst again
          exact givesAgain.unique gives

theorem readNatural_eq_ok_iff_gives {text : String} {value : Nat} :
    Text.Decimal.readNatural Text.Decimal.largest64 (Text.trim text.toList) = .ok value ↔
      Gives text value := by
  have largest : Text.Decimal.largest64 = 2 ^ 64 - 1 := rfl
  rw [Text.Decimal.readNatural_eq_ok_iff, largest, Gives]
  exact and_congr_left' (by omega)

theorem seconds_cases (lookup : String → Option String) (setting : Variable) :
    (∃ found, seconds lookup setting = .ok found ∧
      ∀ standard, Amounts lookup setting standard (found.getD standard)) ∨
    (∃ cause, seconds lookup setting = .error (.malformed setting cause)) ∧
      ¬WellFormed lookup setting := by
  rw [seconds]
  cases set : lookup setting.name with
  | none => exact .inl ⟨none, rfl, fun standard => .unset set⟩
  | some text =>
      dsimp only
      cases read : Text.Decimal.readNatural Text.Decimal.largest64 (Text.trim text.toList) with
      | ok value =>
          have gives : Gives text value := readNatural_eq_ok_iff_gives.mp read
          exact .inl ⟨some value, rfl, fun standard => .set set gives⟩
      | error cause =>
          refine .inr ⟨⟨cause, rfl⟩, fun wellFormed => ?_⟩
          rcases wellFormed text set with ⟨value, gives⟩
          rw [readNatural_eq_ok_iff_gives.mpr gives] at read
          cases read

theorem duration_cases (lookup : String → Option String) (setting : Variable) (standard : Nat) :
    (∃ value, duration lookup setting (standard * 1000) = .ok (value * 1000) ∧
      Amounts lookup setting standard value) ∨
    (∃ cause, duration lookup setting (standard * 1000) = .error (.malformed setting cause)) ∧
      ¬WellFormed lookup setting := by
  rcases seconds_cases lookup setting with ⟨found, looked, amounts⟩ | ⟨⟨cause, looked⟩, malformed⟩
  · refine .inl ⟨found.getD standard, ?_, amounts standard⟩
    rw [duration, looked]
    cases found <;> rfl
  · refine .inr ⟨⟨cause, ?_⟩, malformed⟩
    rw [duration, looked]
    rfl

theorem Amounts.wellFormed {standard value : Nat}
    (amounts : Amounts lookup setting standard value) : WellFormed lookup setting := by
  intro text written
  cases amounts with
  | unset unset => simp [unset] at written
  | set set gives =>
      rw [set, Option.some.injEq] at written
      subst written
      exact ⟨_, gives⟩

/-! ## All variables -/

/-- The ways in which loading can end. -/
inductive Loads (lookup : String → Option String) : Except Fault Settings → Prop where
  | missing (culprit : Culprit lookup .definition) : Loads lookup (.error .missingDefinition)
  | malformed {setting : Variable} {cause : Text.Decimal.Fault} (culprit : Culprit lookup setting) :
      Loads lookup (.error (.malformed setting cause))
  | loaded {settings : Settings} (read : settings.IsReadFrom lookup) : Loads lookup (.ok settings)

theorem load_loads (lookup : String → Option String) : Loads lookup (load lookup) := by
  cases set : lookup Variable.definition.name with
  | none =>
      have missing : load lookup = .error .missingDefinition := by
        rw [load, definitionPath?, set]
        rfl
      rw [missing]
      exact .missing (.definition set)
  | some path =>
      have given : definitionPath? lookup = .ok path := by rw [definitionPath?, set]
      have halts {setting : Variable} {cause : Text.Decimal.Fault} (earlier later : List Variable)
          (order : Variable.durations = earlier ++ setting :: later)
          (sound : ∀ other ∈ earlier, WellFormed lookup other)
          (malformed : ¬WellFormed lookup setting) :
          Loads lookup (.error (.malformed setting cause)) :=
        .malformed (.duration set order sound malformed)
      simp only [load, given, bind, Except.bind]
      -- A line is reached once all durations before it are well-formed.
      rcases seconds_cases lookup .idleCheckInterval with
        ⟨idleCheck, looked, amounts⟩ | ⟨⟨cause, looked⟩, malformed⟩ <;> simp only [looked]
      case inr => exact halts [] _ rfl nofun malformed
      have checked := (amounts 60).wellFormed
      rcases duration_cases lookup .freshness 20 with
        ⟨freshness, looked, fresh⟩ | ⟨⟨cause, looked⟩, malformed⟩ <;> simp only [looked]
      case inr => exact halts [_] _ rfl (by simpa using checked) malformed
      rcases duration_cases lookup .rebootInitialDelay 30 with
        ⟨initialDelay, looked, initial⟩ | ⟨⟨cause, looked⟩, malformed⟩ <;> simp only [looked]
      case inr => exact halts [_, _] _ rfl (by simpa using ⟨checked, fresh.wellFormed⟩) malformed
      rcases duration_cases lookup .rebootRecheck 5 with
        ⟨recheck, looked, again⟩ | ⟨⟨cause, looked⟩, malformed⟩ <;> simp only [looked]
      case inr =>
        exact halts [_, _, _] _ rfl
          (by simpa using ⟨checked, fresh.wellFormed, initial.wellFormed⟩) malformed
      exact .loaded {
        definitionPath := set
        cloudName := rfl
        idleCheck := ⟨_, amounts 60, rfl⟩
        freshness := ⟨_, fresh, rfl⟩
        initialDelay := ⟨_, initial, rfl⟩
        recheck := ⟨_, again, rfl⟩
        tireless := rfl
        logLevel := rfl }

theorem IsReadFrom.wellFormed (read : settings.IsReadFrom lookup) :
    ∀ setting ∈ Variable.durations, WellFormed lookup setting := by
  rcases read.idleCheck with ⟨_, checked, _⟩
  rcases read.freshness with ⟨_, fresh, _⟩
  rcases read.initialDelay with ⟨_, initial, _⟩
  rcases read.recheck with ⟨_, again, _⟩
  simp [Variable.durations, checked.wellFormed, fresh.wellFormed, initial.wellFormed,
    again.wellFormed]

/-- Settings agree on a variable where their sources agree. -/
theorem IsReadFrom.held_eq {others : Settings} (read : settings.IsReadFrom lookup)
    (readOther : others.IsReadFrom other) (agree : other setting.name = lookup setting.name) :
    others.held setting = settings.held setting := by
  have same {standard rate amount again : Nat}
      (amounts : ∃ value, Amounts lookup setting standard value ∧ amount = value * rate)
      (againAmounts : ∃ value, Amounts other setting standard value ∧ again = value * rate) :
      again = amount := by
    rcases amounts with ⟨_, amounts, rfl⟩
    rcases againAmounts with ⟨_, againAmounts, rfl⟩
    rw [amounts.unique againAmounts agree]
  cases setting with
  | definition =>
      rw [read.definitionPath, readOther.definitionPath, Option.some.injEq] at agree
      exact congrArg Sum.inl agree
  | cloud => exact congrArg Sum.inl (by rw [read.cloudName, readOther.cloudName, agree])
  | idleCheckInterval =>
      rcases read.idleCheck with ⟨_, amounts, seconds⟩
      rcases readOther.idleCheck with ⟨_, againAmounts, again⟩
      exact congrArg Sum.inr (by rw [seconds, again, amounts.unique againAmounts agree])
  | freshness => exact congrArg Sum.inr (same read.freshness readOther.freshness)
  | rebootInitialDelay => exact congrArg Sum.inr (same read.initialDelay readOther.initialDelay)
  | rebootRecheck => exact congrArg Sum.inr (same read.recheck readOther.recheck)
  | logLevel => exact congrArg Sum.inl (by rw [read.logLevel, readOther.logLevel, agree])

/-- No two variables are at fault. -/
theorem Culprit.unique {again : Variable} (culprit : Culprit lookup setting)
    (same : Culprit lookup again) : again = setting := by
  cases culprit with
  | definition unset =>
      cases same with
      | definition => rfl
      | duration set => simp [unset] at set
  | duration set order sound malformed =>
      cases same with
      | definition unset => simp [unset] at set
      | duration _ orderAgain soundAgain malformedAgain =>
          rcases List.append_eq_append_iff.mp (order.symm.trans orderAgain) with
            ⟨between, split, rest⟩ | ⟨between, split, rest⟩
          · cases between with
            | nil => exact (List.cons.inj rest).1.symm
            | cons first between =>
                rcases (List.cons.inj rest).1 with rfl
                exact absurd (soundAgain _ (by simp [split])) malformed
          · cases between with
            | nil => exact (List.cons.inj rest).1
            | cons first between =>
                rcases (List.cons.inj rest).1 with rfl
                exact absurd (sound _ (by simp [split])) malformedAgain

theorem Fault.names_setting (fault : Fault) : fault.Names fault.setting := by
  cases fault with
  | missingDefinition => exact ⟨"Missing agent definition. Set ", " to a TOML file.", rfl⟩
  | malformed setting cause =>
      exact ⟨"", " must be a non-negative integer (seconds).", by rw [String.empty_append]; rfl⟩

theorem Variable.name_injective {again : Variable} (same : again.name = setting.name) :
    again = setting := by
  cases again <;> cases setting <;> first | rfl | simp [Variable.name] at same

/-- **Settings are loaded exactly if they are well-formed, and no number is replaced.** Loading
succeeds if and only if the definition is set and every duration is unset or gives a number of
seconds that 64 bits hold. The settings are then what the variables say, with the standard in place
of those that are unset, and the time between two looks at an idle node is never zero. A variable
has no influence on what the settings hold for another one, and what is no variable has none at all.
If loading fails, then one variable is to blame, the definition before the durations and these in
order, and the fault names it. -/
theorem load_iff_well_formed :
    (∀ lookup, (∃ settings, load lookup = .ok settings) ↔
      (∃ path, lookup Variable.definition.name = some path) ∧
        ∀ setting ∈ Variable.durations, WellFormed lookup setting) ∧
    (∀ lookup settings, load lookup = .ok settings →
      settings.IsReadFrom lookup ∧ 0 < settings.idleCheckSeconds) ∧
    (∀ lookup other settings others (changed : Variable),
      load lookup = .ok settings → load other = .ok others →
      (∀ name, name ≠ changed.name → other name = lookup name) →
      ∀ setting, setting ≠ changed → others.held setting = settings.held setting) ∧
    (∀ lookup other, (∀ setting : Variable, other setting.name = lookup setting.name) →
      load other = load lookup) ∧
    ∀ lookup fault, load lookup = .error fault →
      fault.Names fault.setting ∧ ∀ setting, Culprit lookup setting ↔ setting = fault.setting := by
  have succeeds {lookup settings} (loaded : load lookup = .ok settings) :
      settings.IsReadFrom lookup := by
    have loads := load_loads lookup
    rw [loaded] at loads
    cases loads with
    | loaded read => exact read
  have fails {lookup fault} (failed : load lookup = .error fault) :
      Culprit lookup fault.setting := by
    have loads := load_loads lookup
    rw [failed] at loads
    cases loads with
    | missing culprit => exact culprit
    | malformed culprit => exact culprit
  refine ⟨?_, ?_, ?_, ?_, ?_⟩
  · intro lookup
    constructor
    · rintro ⟨settings, loaded⟩
      have read := succeeds loaded
      exact ⟨⟨_, read.definitionPath⟩, read.wellFormed⟩
    · rintro ⟨⟨path, set⟩, wellFormed⟩
      cases loaded : load lookup with
      | ok settings => exact ⟨settings, rfl⟩
      | error fault =>
          have culprit := fails loaded
          generalize fault.setting = setting at culprit
          cases culprit with
          | definition unset => simp [unset] at set
          | duration _ order _ malformed => exact absurd (wellFormed _ (by simp [order])) malformed
  · intro lookup settings loaded
    have read := succeeds loaded
    rcases read.idleCheck with ⟨value, _, seconds⟩
    exact ⟨read, by omega⟩
  · intro lookup other settings others changed loaded loadedOther agree setting different
    exact (succeeds loaded).held_eq (succeeds loadedOther)
      (agree _ fun same => different (Variable.name_injective same))
  · intro lookup other agree
    simp only [load, definitionPath?, duration, seconds, agree]
  · intro lookup fault failed
    refine ⟨fault.names_setting, fun setting => ⟨(fails failed).unique, ?_⟩⟩
    rintro rfl
    exact fails failed

/-- A source with a definition, an idle check that never waits, and what else is assigned. -/
def sampleSource (others : List (String × String)) (name : String) : Option String :=
  List.lookup name ([("EC2_AGENT_DEFINITION", "agent.toml"),
    ("EC2_AGENT_IDLE_CHECK_INTERVAL_SECS", " 00\n")] ++ others)

/-- What a sample source is loaded as. -/
def sampleSettings (freshness : Nat) : Settings where
  definitionPath := "agent.toml"
  cloudName := "default"
  idleCheckSeconds := 1
  timings := { freshness }
  logLevel := "info"

/-- Zero seconds are raised to one, and another freshness changes nothing else. A freshness of which
64 bits are too few is to blame, though a later duration is malformed as well. -/
theorem load_iff_well_formed_sample :
    let fast := sampleSource [("EC2_AGENT_FRESHNESS_SECS", "+05")]
    let slow := sampleSource [("EC2_AGENT_FRESHNESS_SECS", "600")]
    let wrong := sampleSource [("EC2_AGENT_REBOOT_RECHECK_SECS", ""),
      ("EC2_AGENT_FRESHNESS_SECS", "18446744073709551616")]
    load fast = .ok (sampleSettings 5000) ∧ load slow = .ok (sampleSettings 600000) ∧
      load wrong = .error (.malformed .freshness .tooLarge) ∧
      (∀ setting ∈ Variable.durations, WellFormed fast setting) ∧
      (sampleSettings 5000).IsReadFrom fast ∧ 0 < (sampleSettings 5000).idleCheckSeconds ∧
      (∀ setting, setting ≠ .freshness →
        (sampleSettings 600000).held setting = (sampleSettings 5000).held setting) ∧
      (Fault.malformed .freshness .tooLarge).Names .freshness ∧ Culprit wrong .freshness := by
  intro fast slow wrong
  rcases load_iff_well_formed with ⟨accepted, read, apart, _, refused⟩
  have loadedFast : load fast = .ok (sampleSettings 5000) := rfl
  have loadedSlow : load slow = .ok (sampleSettings 600000) := rfl
  have failed : load wrong = .error (.malformed .freshness .tooLarge) := rfl
  have agree (name : String) (different : name ≠ Variable.freshness.name) :
      slow name = fast name := by
    have other : (name == "EC2_AGENT_FRESHNESS_SECS") = false := beq_false_of_ne different
    simp [slow, fast, sampleSource, List.lookup_cons, other]
  exact ⟨loadedFast, loadedSlow, failed, ((accepted fast).mp ⟨_, loadedFast⟩).2,
    (read _ _ loadedFast).1, (read _ _ loadedFast).2,
    apart fast slow _ _ .freshness loadedFast loadedSlow agree,
    (refused _ _ failed).1, ((refused _ _ failed).2 .freshness).mpr rfl⟩

end BuildAgent.Settings
