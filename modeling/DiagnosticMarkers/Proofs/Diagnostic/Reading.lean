import DiagnosticMarkers.Proofs.Diagnostic.Factorization
import DiagnosticMarkers.Proofs.Text.Trim
import DiagnosticMarkers.Validation

/-!
# What is read from a line

The shortest way to take a line apart decides what is read. An unknown severity word or a
zero leaves the line without a diagnostic; a number with too many digits is a fault, but only
behind a known severity word. Otherwise there is a diagnostic, and it is the one that its
fields stand for.

A diagnostic is accepted when it is built from its own fields, since severities and their words are
told from each other.
-/

namespace DiagnosticMarkers

/-! ## The fields of a diagnostic -/

namespace Severity

def words : List Text :=
  ["error".toList, "warning".toList, "note".toList]

theorem ofWord?_word (severity : Severity) : ofWord? severity.word.toList = some severity := by
  cases severity <;> rfl

theorem word_of_ofWord? {text : Text} {severity : Severity} (h : ofWord? text = some severity) :
    severity.word.toList = text := by
  simpa using List.find?_some h

theorem mem_words_iff {text : Text} :
    text ∈ words ↔ ∃ severity : Severity, severity.word.toList = text := by
  constructor
  · intro h
    simp only [words, List.mem_cons, List.not_mem_nil, or_false] at h
    rcases h with rfl | rfl | rfl
    · exact ⟨error, rfl⟩
    · exact ⟨warning, rfl⟩
    · exact ⟨note, rfl⟩
  · rintro ⟨severity, rfl⟩
    cases severity <;> decide

theorem ofWord?_eq_none_iff {text : Text} : ofWord? text = none ↔ text ∉ words := by
  rw [mem_words_iff]
  constructor
  · rintro h ⟨severity, rfl⟩
    rw [ofWord?_word] at h
    cases h
  · intro h
    cases hword : ofWord? text with
    | none => rfl
    | some severity => exact absurd ⟨severity, word_of_ofWord? hword⟩ h

end Severity

/-- The fields of a diagnostic, before they are checked. -/
def Diagnostic.fields (path : Text) (location : Location) (word text : Text) : Table :=
  [("path".toList, .text path), ("line".toList, .integer location.line),
    ("col".toList, (location.col.map Value.integer).getD .null),
    ("severity".toList, .text word), ("text".toList, .text text)]

namespace Table

variable {α : Type} {fields : Table} {name : String} {value : Value}
variable {read : Value → Except Refusal α} {result : α}

theorem required_of_find? (hfind : fields.find? name.toList = some value)
    (hread : read value = .ok result) : fields.required name read = .ok result := by
  simp [required, hfind, hread, inPlace, inField]

theorem optional_of_find? {default : α} (hfind : fields.find? name.toList = some value)
    (hread : read value = .ok result) : fields.optional name default read = .ok result := by
  simp [optional, hfind, hread, inPlace, inField]

end Table

theorem Value.readPositive_integer {n : Int} (h : 1 ≤ n) :
    readPositive (.integer n) = .ok ⟨n, h⟩ := by
  change (if h : 1 ≤ n then _ else _) = _
  rw [dif_pos h]
  rfl

namespace Diagnostic

/-- The fields of a diagnostic pass all checks and give it back. -/
theorem ofFields_fields (diagnostic : Diagnostic) :
    ofFields (fields diagnostic.path diagnostic.location diagnostic.severity.word.toList
      diagnostic.text) = .ok diagnostic := by
  obtain ⟨path, ⟨line, col⟩, severity, text, hline, hcol⟩ := diagnostic
  generalize htable : fields path ⟨line, col⟩ severity.word.toList text = table
  have readPath : table.required "path" Value.readText = .ok path := by
    subst htable
    exact Table.required_of_find? rfl rfl
  have readLine : table.required "line" Value.readPositive = .ok ⟨line, hline⟩ := by
    subst htable
    exact Table.required_of_find? rfl (Value.readPositive_integer hline)
  have readCol : ∃ found, table.optional "col" none (nullOr Value.readPositive) = .ok found ∧
      found.map Subtype.val = col := by
    subst htable
    cases col with
    | none => exact ⟨none, Table.optional_of_find? rfl rfl, rfl⟩
    | some n =>
      have hread := Value.readPositive_integer (hcol n rfl)
      exact ⟨some ⟨n, hcol n rfl⟩, Table.optional_of_find? rfl (congrArg (·.map some) hread), rfl⟩
  have readSeverity : table.required "severity" Value.readSeverity = .ok severity := by
    subst htable
    refine Table.required_of_find? rfl ?_
    rw [Value.readSeverity, Severity.ofWord?_word]
  have readText : table.required "text" Value.readText = .ok text := by
    subst htable
    exact Table.required_of_find? rfl rfl
  obtain ⟨found, readCol, hfound⟩ := readCol
  simp [ofFields, readPath, readLine, readCol, readSeverity, readText, hfound]

end Diagnostic

open Text

/-! ## What is read -/

/-- The number with these digits in base ten, each counted from the zero of its own script. -/
def Digits.value (digits : Digits) : Nat :=
  Nat.ofDigits 10 (digits.text.reverse.map digitCount)

/-- Digits that are too many to be converted. -/
def Digits.isOverlong (digits : Digits) : Bool :=
  4300 < digits.text.length

namespace Factorization

variable (factorization : Factorization)

def word : Text :=
  factorization.remainder.body.word

/-- The line, and the column if there is one. -/
def numbers : List Digits :=
  factorization.remainder.line :: (factorization.remainder.col.map Prod.fst).toList

/-- The place that the numbers give. -/
def location : Location where
  line := factorization.remainder.line.value
  col := factorization.remainder.col.map fun col => col.1.value

def message : Text :=
  factorization.remainder.body.message

/-- What is read from a line that is taken apart in this way. -/
inductive Decides : Except OverlongNumber (Option Diagnostic) → Prop
  | unknownWord (hword : factorization.word ∉ Severity.words) : Decides (.ok none)
  /-- The fault is the first number that is too long. -/
  | overlong {digits : Digits} (hword : factorization.word ∈ Severity.words)
      (hdigits : factorization.numbers.find? Digits.isOverlong = some digits) :
    Decides (.error ⟨digits.text.length⟩)
  | zero (hword : factorization.word ∈ Severity.words)
      (hnumbers : ∀ digits ∈ factorization.numbers, digits.isOverlong = false)
      (hzero : ∃ digits ∈ factorization.numbers, digits.value = 0) : Decides (.ok none)
  | diagnostic {diagnostic : Diagnostic} (hword : factorization.word ∈ Severity.words)
      (hnumbers : ∀ digits ∈ factorization.numbers, digits.isOverlong = false)
      (hpositive : ∀ digits ∈ factorization.numbers, digits.value ≠ 0)
      (hpath : diagnostic.path = factorization.path)
      (hlocation : diagnostic.location = factorization.location)
      (hseverity : diagnostic.severity.word.toList = factorization.word)
      (htext : IsTrimmed factorization.message diagnostic.text)
      (hfields : Diagnostic.ofFields (Diagnostic.fields factorization.path
        factorization.location factorization.word diagnostic.text) = .ok diagnostic) :
    Decides (.ok (some diagnostic))

variable {factorization}

/-- Lines and columns of diagnostics count from one. -/
theorem value_ne_zero_of_location {diagnostic : Diagnostic}
    (hlocation : diagnostic.location = factorization.location) :
    ∀ digits ∈ factorization.numbers, digits.value ≠ 0 := by
  have hline := diagnostic.one_le_line
  have hcol := diagnostic.one_le_col
  simp only [hlocation, location] at hline hcol
  intro digits hdigits
  rcases List.mem_cons.mp hdigits with rfl | hdigits
  · omega
  · obtain ⟨col, hmem, rfl⟩ := Option.map_eq_some_iff.mp (Option.mem_toList.mp hdigits)
    have := hcol col.1.value (Option.map_eq_some_iff.mpr ⟨col, hmem, rfl⟩)
    omega

/-- A diagnostic with the parts of the line is what its fields stand for. -/
theorem Decides.of_parts {diagnostic : Diagnostic}
    (hnumbers : ∀ digits ∈ factorization.numbers, digits.isOverlong = false)
    (hpath : diagnostic.path = factorization.path)
    (hlocation : diagnostic.location = factorization.location)
    (hseverity : diagnostic.severity.word.toList = factorization.word)
    (htext : IsTrimmed factorization.message diagnostic.text) :
    factorization.Decides (.ok (some diagnostic)) := by
  have hword := Severity.mem_words_iff.mpr ⟨_, hseverity⟩
  have hpositive := value_ne_zero_of_location hlocation
  refine .diagnostic hword hnumbers hpositive hpath hlocation hseverity htext ?_
  rw [← hpath, ← hlocation, ← hseverity]
  exact Diagnostic.ofFields_fields diagnostic

end Factorization

theorem numberOf_of_isOverlong {digits : Digits} (h : digits.isOverlong = true) :
    numberOf digits.text = .error ⟨digits.text.length⟩ := by
  rw [numberOf, maxDigits, if_neg (Nat.not_le.mpr (of_decide_eq_true h))]

theorem numberOf_of_not_isOverlong {digits : Digits} (h : digits.isOverlong = false) :
    numberOf digits.text = .ok digits.value := by
  rw [numberOf, maxDigits, if_pos (Nat.not_lt.mp (of_decide_eq_false h)),
    decimalValue_eq_ofDigits digits.all_decimal, Digits.value]

namespace Diagnostic

/-- The written parts of a line are read as its factorization decides. -/
theorem decides_ofWritten (factorization : Factorization) :
    factorization.Decides
      (ofWritten factorization.path factorization.remainder.written) := by
  obtain ⟨path, ⟨line, col, body⟩, hpath, hnewline⟩ := factorization
  simp only [ofWritten, Remainder.written]
  cases hseverity : Severity.ofWord? body.word with
  | none => exact .unknownWord (Severity.ofWord?_eq_none_iff.mp hseverity)
  | some severity =>
    have hword := Severity.word_of_ofWord? hseverity
    have hknown := Severity.mem_words_iff.mpr ⟨severity, hword⟩
    cases hline : line.isOverlong with
    | true =>
      rw [numberOf_of_isOverlong hline]
      exact .overlong hknown (by simp [Factorization.numbers, hline])
    | false =>
    rw [numberOf_of_not_isOverlong hline]
    simp only [bind, Except.bind]
    rcases col with _ | ⟨col, ends⟩
    · have hnumbers : ∀ digits ∈ [line], digits.isOverlong = false := by simpa using hline
      by_cases hpositive : 1 ≤ line.value
      · simp only [Option.map_none, dif_pos hpositive]
        exact .of_parts hnumbers rfl rfl hword (isTrimmed_trim _)
      · simp only [Option.map_none, dif_neg hpositive]
        exact .zero hknown hnumbers ⟨line, List.mem_cons_self, by omega⟩
    · simp only [Option.map_some]
      cases hcol : col.isOverlong with
      | true =>
        rw [numberOf_of_isOverlong hcol]
        exact .overlong hknown (by simp [Factorization.numbers, hline, hcol])
      | false =>
      have hnumbers : ∀ digits ∈ [line, col], digits.isOverlong = false := by
        simp [hline, hcol]
      rw [numberOf_of_not_isOverlong hcol]
      by_cases hpositive : 1 ≤ line.value ∧ 1 ≤ col.value
      · simp only [dif_pos hpositive]
        exact .of_parts hnumbers rfl rfl hword (isTrimmed_trim _)
      · simp only [dif_neg hpositive]
        have hzero : ∃ digits ∈ [line, col], digits.value = 0 := by
          rcases Nat.eq_zero_or_pos line.value with hline | hline
          · exact ⟨line, by simp, hline⟩
          · exact ⟨col, by simp, by omega⟩
        exact .zero hknown hnumbers hzero

/-- Whatever is read is decided by the shortest way to take the trimmed line apart. -/
theorem decides_ofLine {factorization : Factorization} {raw : Text}
    (h : factorization.IsShortest (trim raw)) : factorization.Decides (ofLine raw) := by
  obtain ⟨path, written, hfactor, -⟩ := factor?_text factorization
  rw [h.text_eq] at hfactor
  obtain ⟨found, hfound, rfl, rfl⟩ := exists_shortest_of_factor? hfactor
  obtain rfl := hfound.unique h
  rw [ofLine, hfactor]
  exact decides_ofWritten factorization

/-- A line that can be taken apart has a shortest way. -/
theorem exists_isShortest {line : Text} (factorization : Factorization)
    (h : factorization.text = line) :
    ∃ shortest : Factorization, shortest.IsShortest line := by
  obtain ⟨path, written, hfactor, -⟩ := factor?_text factorization
  rw [h] at hfactor
  obtain ⟨shortest, hshortest, -, -⟩ := exists_shortest_of_factor? hfactor
  exact ⟨shortest, hshortest⟩

/-- No diagnostic is read from a line that cannot be taken apart. -/
theorem ofLine_of_forall_ne {raw : Text} (h : ∀ factorization : Factorization,
    factorization.text ≠ trim raw) : ofLine raw = .ok none := by
  cases hfactor : factor? (trim raw) with
  | none => rw [ofLine, hfactor]
  | some found =>
    obtain ⟨factorization, hshortest, -, -⟩ := exists_shortest_of_factor? hfactor
    exact absurd hshortest.text_eq (h factorization)

/-- A line is read without the blanks at its ends. If it cannot be taken apart there is no
diagnostic. Otherwise there is one way with the shortest path, and that way alone decides. -/
theorem ofLine_decided_by_shortest (raw : Text) : ∃ line, IsTrimmed raw line ∧
    ((∀ factorization : Factorization, factorization.text ≠ line) ∧ ofLine raw = .ok none ∨
      ∃ factorization : Factorization, factorization.IsShortest line ∧
        (∀ other : Factorization, other.IsShortest line → other = factorization) ∧
        factorization.Decides (ofLine raw)) := by
  refine ⟨trim raw, isTrimmed_trim raw, ?_⟩
  by_cases hexists : ∃ factorization : Factorization, factorization.text = trim raw
  · obtain ⟨factorization, htext⟩ := hexists
    obtain ⟨shortest, hshortest⟩ := exists_isShortest factorization htext
    exact .inr ⟨shortest, hshortest, fun _ hother => hshortest.unique hother,
      decides_ofLine hshortest⟩
  · have hnone := not_exists.mp hexists
    exact .inl ⟨hnone, ofLine_of_forall_ne hnone⟩

end Diagnostic

end DiagnosticMarkers
