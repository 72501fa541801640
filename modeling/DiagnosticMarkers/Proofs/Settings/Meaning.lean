import DiagnosticMarkers.Proofs.Settings.Fields
import DiagnosticMarkers.Proofs.Settings.Tokens

/-!
# What the values of the fields mean

Each field takes certain values, and what the settings hold in it is said by the value alone:
texts as they are, words without the blanks around them, each token once, and yes or no in several
spellings.
-/

namespace DiagnosticMarkers

namespace Value

/-- The value says yes or no. -/
inductive Answers : Value → Bool → Prop
  | boolean (answer : Bool) : Answers (.boolean answer) answer
  | integer (answer : Bool) : Answers (.integer answer.toInt) answer
  | float {number : Binary64} {answer : Bool} (h : number.toInt? = some answer.toInt) :
    Answers (.float number) answer
  | no {word : Text} (h : String.ofList (word.map Char.toLower) ∈ falseWords) :
    Answers (.text word) false
  | yes {word : Text} (h : String.ofList (word.map Char.toLower) ∈ trueWords) :
    Answers (.text word) true

theorem readBit_eq_ok_iff (number : Int) (answer : Bool) :
    readBit number = .ok answer ↔ number = answer.toInt := by
  unfold readBit
  split
  · next hzero =>
    subst hzero
    cases answer <;> decide
  split
  · next hone =>
    subst hone
    cases answer <;> decide
  · next hzero hone => cases answer <;> simpa

theorem readWholeFloat_eq_ok_iff (number : Binary64) (answer : Bool) :
    readWholeFloat number = .ok answer.toInt ↔ number.toInt? = some answer.toInt := by
  have hfits : answer.toInt.natAbs < wordBound := by cases answer <;> decide
  cases number with
  | finite negative mantissa exponent =>
    cases hwhole : (Binary64.finite negative mantissa exponent).toInt? with
    | none => simp [readWholeFloat, hwhole]
    | some whole =>
      by_cases hword : whole.natAbs < wordBound
      · simp [readWholeFloat, hwhole, hword]
      · have hother : whole ≠ answer.toInt := fun h => hword (h ▸ hfits)
        simp [readWholeFloat, hwhole, hword, hother]
  | infinite | nan => exact iff_of_false nofun nofun

/-- No word says both. -/
theorem falseWords_apart_trueWords : ∀ word ∈ trueWords, falseWords.contains word = false := by
  decide

/-- A value is read as yes or no exactly if it says so. -/
theorem readBoolean_eq_ok_iff (value : Value) (answer : Bool) :
    value.readBoolean = .ok answer ↔ value.Answers answer := by
  constructor
  · intro h
    cases value with
    | boolean given =>
      obtain rfl := Except.ok.inj h
      exact .boolean given
    | integer number =>
      rw [readBoolean] at h
      split at h
      · obtain rfl := (readBit_eq_ok_iff number answer).mp h
        exact .integer answer
      · cases h
    | float number =>
      rw [readBoolean] at h
      split at h
      · next whole hwhole =>
        obtain rfl := (readBit_eq_ok_iff whole answer).mp h
        exact .float ((readWholeFloat_eq_ok_iff number answer).mp hwhole)
      · cases h
    | text word =>
      rw [readBoolean] at h
      split at h
      · next hword =>
        obtain rfl := Except.ok.inj h
        exact .no (List.contains_iff_mem.mp hword)
      split at h
      · next hword =>
        obtain rfl := Except.ok.inj h
        exact .yes (List.contains_iff_mem.mp hword)
      · cases h
    | null | moment | array | table => cases h
  · intro h
    cases h with
    | boolean => rfl
    | integer => cases answer <;> rfl
    | float h =>
      rw [readBoolean, (readWholeFloat_eq_ok_iff _ _).mpr h]
      exact (readBit_eq_ok_iff _ _).mpr rfl
    | no h => rw [readBoolean, if_pos (List.contains_iff_mem.mpr h)]
    | yes h =>
      rw [readBoolean, falseWords_apart_trueWords _ h, if_neg Bool.false_ne_true,
        if_pos (List.contains_iff_mem.mpr h)]

/-- No value says both yes and no. -/
theorem Answers.unique {value : Value} {answer other : Bool} (h : value.Answers answer)
    (hother : value.Answers other) : answer = other := by
  rw [← readBoolean_eq_ok_iff] at h hother
  exact Except.ok.inj (h.symm.trans hother)

theorem readText_eq_ok_iff (value : Value) (text : Text) :
    value.readText = .ok text ↔ value = .text text := by
  cases value <;> simp [readText]

theorem readItems_eq_ok_iff (index : Nat) (items : List Value) (texts : List Text) :
    readItems index items = .ok texts ↔ items = texts.map .text := by
  refine ⟨fun h => ?_, fun h => h ▸ Settings.readItems_texts index texts⟩
  induction items generalizing index texts with
  | nil =>
    obtain rfl := Except.ok.inj h
    rfl
  | cons item items ih =>
    rw [readItems] at h
    split at h
    · next value values hvalue hvalues =>
      obtain rfl := Except.ok.inj h
      rw [(readText_eq_ok_iff item value).mp hvalue, ih _ _ hvalues]
      rfl
    · cases h
    · cases h
    · cases h

theorem readTexts_eq_ok_iff (value : Value) (texts : List Text) :
    value.readTexts = .ok texts ↔ value = .array (texts.map .text) := by
  cases value with
  | array items => simp [readTexts, readItems_eq_ok_iff]
  | _ => simp [readTexts]

theorem array_texts_inj {texts others : List Text}
    (h : Value.array (texts.map .text) = .array (others.map .text)) : texts = others :=
  List.map_injective_iff.mpr (fun _ _ => Value.text.inj) (Value.array.inj h)

end Value

theorem inPlace_eq_ok_iff {α : Type} (found : Except Refusal α) (value : α) :
    inPlace found = .ok value ↔ found = .ok value := by
  cases found <;> simp [inPlace]

theorem inField_eq_ok_iff {α : Type} (name : Text) (found : Except (List FieldError) α)
    (value : α) : inField name found = .ok value ↔ found = .ok value := by
  cases found <;> simp [inField]

namespace Settings

open Text

theorem checkTokens_eq_ok_iff (given tokens : List Text) :
    checkTokens given = .ok tokens ↔
      (∀ token ∈ given, IsSingleWord (trim token)) ∧ tokens = (given.map trim).eraseDups := by
  by_cases h : ∀ token ∈ given, IsSingleWord (trim token)
  · rw [checkTokens_of_forall h, Except.ok.injEq, eq_comm]
    exact (and_iff_right h).symm
  · obtain ⟨before, token, after, rfl, hbefore, htoken⟩ := exists_first_of_not_forall h
    rw [checkTokens_of_first after hbefore htoken]
    exact iff_of_false nofun fun hall => h hall.1

theorem checkExecutable_eq_ok_iff (given executable : Text) :
    checkExecutable given = .ok executable ↔ trim given ≠ [] ∧ executable = trim given := by
  unfold checkExecutable
  split
  · next hempty => simp [List.isEmpty_iff.mp hempty]
  · next hne => simp [List.isEmpty_iff.not.mp hne, eq_comm]

theorem readChecked_eq_ok_iff (check : List Text → Except Refusal (List Text)) (value : Value)
    (texts : List Text) :
    readChecked check value = .ok texts ↔
      ∃ given : List Text, value = .array (given.map .text) ∧ check given = .ok texts := by
  constructor
  · intro h
    rw [readChecked] at h
    cases hgiven : value.readTexts with
    | error errors =>
      rw [hgiven] at h
      cases h
    | ok given =>
      rw [hgiven] at h
      exact ⟨given, (value.readTexts_eq_ok_iff given).mp hgiven, (inPlace_eq_ok_iff _ _).mp h⟩
  · rintro ⟨given, rfl, h⟩
    rwa [readChecked_texts, inPlace_eq_ok_iff]

theorem readText_bind_eq_ok_iff (check : Text → Except Refusal Text) (value : Value)
    (text : Text) :
    (value.readText >>= check) = .ok text ↔
      ∃ given : Text, value = .text given ∧ check given = .ok text := by
  constructor
  · intro h
    cases value with
    | text given => exact ⟨given, rfl, h⟩
    | _ => cases h
  · rintro ⟨given, rfl, h⟩
    exact h

/-! ## The fields -/

/-- The fields of the settings. -/
inductive Field where
  | heading
  | tokens
  | caseSensitive
  | executable
  | arguments
deriving DecidableEq

namespace Field

/-- The name of the field in a table. -/
def name : Field → String
  | heading => "message_prefix"
  | tokens => "suppression_tokens"
  | caseSensitive => "case_sensitive_paths"
  | executable => "mypy_executable"
  | arguments => "mypy_args"

/-- The settings hold in the field what the value means. -/
def Means : Field → Value → Settings → Prop
  | heading, value, settings => value = .text settings.heading
  | tokens, value, settings =>
    ∃ given : List Text, value = .array (given.map .text) ∧
      (∀ token ∈ given, IsSingleWord (trim token)) ∧
      settings.tokens = (given.map trim).eraseDups
  | caseSensitive, value, settings => value.Answers settings.caseSensitive
  | executable, value, settings =>
    ∃ given : Text, value = .text given ∧ trim given ≠ [] ∧ settings.executable = trim given
  | arguments, value, settings => value = .array (settings.arguments.map .text)

/-- The settings hold the same in the field. -/
def Agrees : Field → Settings → Settings → Prop
  | heading, settings, other => settings.heading = other.heading
  | tokens, settings, other => settings.tokens = other.tokens
  | caseSensitive, settings, other => settings.caseSensitive = other.caseSensitive
  | executable, settings, other => settings.executable = other.executable
  | arguments, settings, other => settings.arguments = other.arguments

/-- The value is one that the field takes. -/
def Takes (field : Field) (value : Value) : Prop :=
  ∃ settings, field.Means value settings

/-- The settings hold in the field what the value means, or the default if there is none. -/
def Holds (field : Field) : Option Value → Settings → Prop
  | some value, settings => field.Means value settings
  | none, settings => field.Agrees settings {}

end Field

/-- A value means one thing. -/
theorem Field.Means.agrees {field : Field} {value : Value} {settings other : Settings}
    (h : field.Means value settings) (hother : field.Means value other) :
    field.Agrees settings other := by
  cases field with
  | heading => exact Value.text.inj (h.symm.trans hother)
  | tokens =>
    obtain ⟨given, rfl, -, htokens⟩ := h
    obtain ⟨_, hsame, -, hothers⟩ := hother
    rw [Agrees, htokens, hothers, Value.array_texts_inj hsame]
  | caseSensitive => exact h.unique hother
  | executable =>
    obtain ⟨given, rfl, -, hexecutable⟩ := h
    obtain ⟨_, hsame, -, hexecutables⟩ := hother
    rw [Agrees, hexecutable, hexecutables, Value.text.inj hsame]
  | arguments => exact Value.array_texts_inj (h.symm.trans hother)

/-- What is held in a field depends on its value alone. -/
theorem Field.Holds.agrees {field : Field} {given : Option Value} {settings other : Settings}
    (h : field.Holds given settings) (hother : field.Holds given other) :
    field.Agrees settings other := by
  cases given with
  | some value => exact Means.agrees h hother
  | none =>
    cases field with
    | heading | tokens | caseSensitive | executable | arguments => exact h.trans hother.symm

/-- The key is the name of a field. -/
def IsFieldName (key : Text) : Prop :=
  ∃ field : Field, key = field.name.toList

/-- All fields in order. -/
def Field.all : List Field :=
  [heading, tokens, caseSensitive, executable, arguments]

theorem Field.mem_all (field : Field) : field ∈ all := by
  cases field <;> decide

theorem isFieldName_iff (key : Text) : IsFieldName key ↔ String.ofList key ∈ fieldNames := by
  rw [show fieldNames = Field.all.map Field.name from rfl, List.mem_map]
  constructor
  · rintro ⟨field, rfl⟩
    exact ⟨field, field.mem_all, String.ofList_toList.symm⟩
  · rintro ⟨field, -, hname⟩
    exact ⟨field, by rw [hname, String.toList_ofList]⟩

theorem unknownKeys_eq_nil_iff (fields : Table) :
    unknownKeys fields = [] ↔ ∀ key ∈ fields.map Prod.fst, IsFieldName key := by
  rw [unknownKeys, List.map_eq_nil_iff, List.filter_eq_nil_iff, List.forall_mem_map]
  refine forall₂_congr fun entry _ => ?_
  rw [isFieldName_iff, Bool.not_eq_true', Bool.not_eq_false, List.contains_iff_mem]

section

variable {settings : Settings}

/-- A field that is read as its value means, and else has the default. -/
theorem readField_eq_ok_iff {α : Type} (field : Field) {default held : α}
    {read : Value → Except (List FieldError) α}
    (hmeans : ∀ value, read value = .ok held ↔ field.Means value settings)
    (hdefault : held = default ↔ field.Agrees settings {}) (fields : Table) :
    readField fields field.name default read = .ok held ↔
      field.Holds (fields.find? field.name.toList) settings := by
  rw [readField, inField_eq_ok_iff]
  cases fields.find? field.name.toList with
  | none => rw [Except.ok.injEq, eq_comm, hdefault, Field.Holds]
  | some value => exact hmeans value

theorem readHeading_eq_ok_iff (fields : Table) :
    readHeading fields = .ok settings.heading ↔
      Field.heading.Holds (fields.find? Field.heading.name.toList) settings :=
  readField_eq_ok_iff .heading
    (fun value => (inPlace_eq_ok_iff _ _).trans (value.readText_eq_ok_iff _)) Iff.rfl fields

theorem readTokens_eq_ok_iff (fields : Table) :
    readTokens fields = .ok settings.tokens ↔
      Field.tokens.Holds (fields.find? Field.tokens.name.toList) settings := by
  refine readField_eq_ok_iff .tokens (fun value => ?_) Iff.rfl fields
  rw [readChecked_eq_ok_iff, Field.Means]
  simp only [checkTokens_eq_ok_iff]

theorem readCaseSensitive_eq_ok_iff (fields : Table) :
    readCaseSensitive fields = .ok settings.caseSensitive ↔
      Field.caseSensitive.Holds (fields.find? Field.caseSensitive.name.toList) settings :=
  readField_eq_ok_iff .caseSensitive
    (fun value => (inPlace_eq_ok_iff _ _).trans (value.readBoolean_eq_ok_iff _)) Iff.rfl fields

theorem readExecutable_eq_ok_iff (fields : Table) :
    readExecutable fields = .ok settings.executable ↔
      Field.executable.Holds (fields.find? Field.executable.name.toList) settings := by
  refine readField_eq_ok_iff .executable (fun value => ?_) Iff.rfl fields
  rw [inPlace_eq_ok_iff, readText_bind_eq_ok_iff, Field.Means]
  simp only [checkExecutable_eq_ok_iff]

theorem readArguments_eq_ok_iff (fields : Table) :
    readArguments fields = .ok settings.arguments ↔
      Field.arguments.Holds (fields.find? Field.arguments.name.toList) settings :=
  readField_eq_ok_iff .arguments (fun value => value.readTexts_eq_ok_iff _) Iff.rfl
    fields

end

/-- Settings come from a table exactly if each field holds what its value means and there are no
other keys. -/
theorem ofFields_eq_ok_iff_holds (fields : Table) (settings : Settings) :
    ofFields fields = .ok settings ↔
      (∀ key ∈ fields.map Prod.fst, IsFieldName key) ∧
        ∀ field : Field, field.Holds (fields.find? field.name.toList) settings := by
  rw [ofFields_eq_ok_iff]
  constructor
  · intro h
    refine ⟨(unknownKeys_eq_nil_iff fields).mp h.known, fun field => ?_⟩
    cases field with
    | heading => exact (readHeading_eq_ok_iff fields).mp h.heading
    | tokens => exact (readTokens_eq_ok_iff fields).mp h.tokens
    | caseSensitive => exact (readCaseSensitive_eq_ok_iff fields).mp h.caseSensitive
    | executable => exact (readExecutable_eq_ok_iff fields).mp h.executable
    | arguments => exact (readArguments_eq_ok_iff fields).mp h.arguments
  · rintro ⟨hknown, hholds⟩
    exact
      { heading := (readHeading_eq_ok_iff fields).mpr (hholds .heading)
        tokens := (readTokens_eq_ok_iff fields).mpr (hholds .tokens)
        caseSensitive := (readCaseSensitive_eq_ok_iff fields).mpr (hholds .caseSensitive)
        executable := (readExecutable_eq_ok_iff fields).mpr (hholds .executable)
        arguments := (readArguments_eq_ok_iff fields).mpr (hholds .arguments)
        known := (unknownKeys_eq_nil_iff fields).mpr hknown }

/-- Settings can be put together field by field. -/
theorem exists_holds_iff (given : Field → Option Value) :
    (∃ settings, ∀ field : Field, field.Holds (given field) settings) ↔
      ∀ (field : Field) (value : Value), given field = some value → field.Takes value := by
  constructor
  · rintro ⟨settings, hholds⟩ field value hvalue
    have hfield := hholds field
    rw [hvalue] at hfield
    exact ⟨settings, hfield⟩
  · intro htakes
    have heach (field : Field) : ∃ settings, field.Holds (given field) settings := by
      cases hvalue : given field with
      | none => exact ⟨{}, by cases field <;> rfl⟩
      | some value => exact htakes field value hvalue
    choose settings hsettings using heach
    refine ⟨⟨(settings .heading).heading, (settings .tokens).tokens,
      (settings .caseSensitive).caseSensitive, (settings .executable).executable,
      (settings .arguments).arguments⟩, fun field => ?_⟩
    have hfield := hsettings field
    cases hvalue : given field with
    | none =>
      rw [hvalue] at hfield
      cases field <;> exact hfield
    | some value =>
      rw [hvalue] at hfield
      cases field <;> exact hfield

end Settings

end DiagnosticMarkers
