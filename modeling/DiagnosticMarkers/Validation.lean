import DiagnosticMarkers.Diagnostic.Basic
import DiagnosticMarkers.Group
import DiagnosticMarkers.Number
import DiagnosticMarkers.Value

/-!
# Validation

A value is read as a text, a number, a severity, a truth value or a list of texts, or it is
refused for a reason. A record is read field by field; all refused fields are reported, in
the order of the fields.
-/

namespace DiagnosticMarkers

inductive Refusal where
  | missing
  | notText
  | notInteger
  | unreadableInteger
  | oversizedInteger
  | fractionalInteger
  | infiniteNumber
  | belowOne
  | notSeverity
  | notArray
  | notBoolean
  | unreadableBoolean
  | unknownKey
  /-- A rule of the field itself is broken. -/
  | ruleBroken (reason : Text)
deriving DecidableEq, Repr

namespace Refusal

def message : Refusal → Text
  | missing => "Field required".toList
  | notText => "Input should be a valid string".toList
  | notInteger => "Input should be a valid integer".toList
  | unreadableInteger =>
    "Input should be a valid integer, unable to parse string as an integer".toList
  | oversizedInteger =>
    "Unable to parse input string as an integer, exceeded maximum size".toList
  | fractionalInteger =>
    "Input should be a valid integer, got a number with a fractional part".toList
  | infiniteNumber => "Input should be a finite number".toList
  | belowOne => "Input should be greater than or equal to 1".toList
  | notSeverity => "Input should be 'error', 'warning' or 'note'".toList
  | notArray => "Input should be a valid tuple".toList
  | notBoolean => "Input should be a valid boolean".toList
  | unreadableBoolean => "Input should be a valid boolean, unable to interpret input".toList
  | unknownKey => "Extra inputs are not permitted".toList
  | ruleBroken reason => "Value error, ".toList ++ reason

end Refusal

/-- A step on the way to a refused value. -/
inductive Step where
  | field (name : Text)
  | item (index : Nat)
deriving DecidableEq, Repr

structure FieldError where
  place : List Step
  refusal : Refusal
deriving DecidableEq, Repr

namespace Value

def readText : Value → Except Refusal Text
  | text value => .ok value
  | _ => .error .notText

/-- Blanks around a numeral: those that are not information separators. -/
def isNumeralBlank (c : Char) : Bool :=
  Text.isBlank c && !(28 ≤ c.toNat && c.toNat ≤ 31)

inductive NumeralFault where
  | malformed
  | oversized
deriving DecidableEq, Repr

def digitsValue (digits : Text) : Nat :=
  digits.foldl (fun value d => 10 * value + (d.toNat - 48)) 0

/-- The value of an unsigned plain numeral: zero alone, or digits of which the first is not
zero. Digits beyond the limit are a fault of their own, whatever stands behind them. -/
def readDigits : Text → Except NumeralFault Nat
  | [] => .error .malformed
  | c :: rest =>
    if c = '0' then if rest.isEmpty then .ok 0 else .error .malformed
    else
      let digits := (c :: rest).takeWhile Char.isDigit
      if maxDigits < digits.length then .error .oversized
      else if (c :: rest).all Char.isDigit then .ok (digitsValue digits)
      else .error .malformed

def readNumeral : Text → Except NumeralFault Int
  | '-' :: digits => (readDigits digits).map fun size => -(size : Int)
  | digits => (readDigits digits).map fun size => (size : Int)

/-- Drop zeros in front of a numeral that begins with one, with the underscores between them.
What is left begins with another digit, with a minus sign, or with the last character before a
point; one character stays of a numeral that is nothing else. `last` is the character
before. -/
def dropZeros (last : Char) : Text → Option Text
  | [] => some [last]
  | c :: rest =>
    if c = '0' || c = '_' then dropZeros c rest
    else if c.isDigit || c = '-' then some (c :: rest)
    else if c = '.' then some (last :: c :: rest)
    else none

/-- The numeral without zeros in front. It begins with a digit, which a minus sign may
precede. -/
def withoutZeros : Text → Option Text
  | '-' :: c :: rest =>
    if c = '0' then (dropZeros c rest).map ('-' :: ·)
    else if c.isDigit then some ('-' :: c :: rest)
    else none
  | c :: rest =>
    if c = '0' then dropZeros c rest
    else if c.isDigit then some (c :: rest)
    else none
  | [] => none

/-- The numeral without a fraction of one or more zeros. -/
def withoutFraction (numeral : Text) : Text :=
  match numeral.dropWhile (· != '.') with
  | _ :: fraction =>
    if !fraction.isEmpty && fraction.all (· == '0') then numeral.takeWhile (· != '.')
    else numeral
  | [] => numeral

/-- Does no underscore stand at an end or beside another? -/
def underscoresApart (numeral : Text) : Bool :=
  (Text.cutAt '_' numeral).all fun part => !part.isEmpty

/-- The plain numeral that a spelled one stands for: without blanks around it, a plus sign,
zeros in front, a fraction of zeros, and underscores that stand apart. -/
def plainNumeral (spelled : Text) : Option Text :=
  let trimmed := Text.dropEndWhile isNumeralBlank (spelled.dropWhile isNumeralBlank)
  let unsigned :=
    match trimmed with
    | '+' :: '-' :: _ => none
    | '+' :: rest => some rest
    | _ => some trimmed
  (unsigned.bind withoutZeros).map fun numeral =>
    let whole := withoutFraction numeral
    if underscoresApart whole then whole.filter (· != '_') else whole

/-- The integer that a text spells. A text that is a plain numeral with too many digits is
oversized; a text that only stands for one cannot be read. -/
def readSpelledInteger (spelled : Text) : Except Refusal Int :=
  match readNumeral spelled with
  | .ok value => .ok value
  | .error .oversized => .error .oversizedInteger
  | .error .malformed =>
    match (plainNumeral spelled).map readNumeral with
    | some (.ok value) => .ok value
    | _ => .error .unreadableInteger

/-- An integer of sixty-four bits with a sign is smaller than this in size. -/
def wordBound : Nat := 0x8000000000000000

/-- The integer that a float equals, within sixty-four bits. -/
def readWholeFloat : Binary64 → Except Refusal Int
  | .finite negative mantissa exponent =>
    match (Binary64.finite negative mantissa exponent).toInt? with
    | none => .error .fractionalInteger
    | some value => if value.natAbs < wordBound then .ok value else .error .oversizedInteger
  | _ => .error .infiniteNumber

/-- Integers are integers, truth values are one and zero, fractions of zero are dropped and
texts are spelled out. -/
def readInteger : Value → Except Refusal Int
  | integer value => .ok value
  | boolean value => .ok (if value then 1 else 0)
  | float value => readWholeFloat value
  | text value => readSpelledInteger value
  | _ => .error .notInteger

def readPositive (value : Value) : Except Refusal { n : Int // 1 ≤ n } := do
  let n ← readInteger value
  if h : 1 ≤ n then return ⟨n, h⟩ else throw .belowOne

def readSeverity : Value → Except Refusal Severity
  | text word =>
    match Severity.ofWord? word with
    | some severity => .ok severity
    | none => .error .notSeverity
  | _ => .error .notSeverity

def falseWords : List String := ["0", "off", "f", "false", "n", "no"]

def trueWords : List String := ["1", "on", "t", "true", "y", "yes"]

/-- One is yes and zero is no. -/
def readBit (value : Int) : Except Refusal Bool :=
  if value = 0 then .ok false else if value = 1 then .ok true else .error .unreadableBoolean

def fitsWord (value : Int) : Bool :=
  -(wordBound : Int) ≤ value && value < wordBound

/-- A truth value, a number equal to zero or one, or a word for yes or no in any ASCII case.
Numbers that are no integers of sixty-four bits are no truth values at all. -/
def readBoolean : Value → Except Refusal Bool
  | boolean value => .ok value
  | integer value => if fitsWord value then readBit value else .error .notBoolean
  | float value =>
    match readWholeFloat value with
    | .ok value => readBit value
    | .error _ => .error .notBoolean
  | text word =>
    let lower := String.ofList (word.map Char.toLower)
    if falseWords.contains lower then .ok false
    else if trueWords.contains lower then .ok true
    else .error .unreadableBoolean
  | _ => .error .notBoolean

def readItems : Nat → List Value → Except (List FieldError) (List Text)
  | _, [] => .ok []
  | index, item :: items =>
    match readText item, readItems (index + 1) items with
    | .ok value, .ok values => .ok (value :: values)
    | .ok _, .error errors => .error errors
    | .error refusal, .ok _ => .error [⟨[.item index], refusal⟩]
    | .error refusal, .error errors => .error (⟨[.item index], refusal⟩ :: errors)

/-- A list of texts. Only an array is a list. -/
def readTexts : Value → Except (List FieldError) (List Text)
  | array items => readItems 0 items
  | _ => .error [⟨[], .notArray⟩]

end Value

/-- The errors of a reading that has no steps of its own. -/
def inPlace {α : Type} : Except Refusal α → Except (List FieldError) α
  | .ok value => .ok value
  | .error refusal => .error [⟨[], refusal⟩]

/-- The reading of a field, with the name of the field in front of each error. -/
def inField {α : Type} (name : Text) : Except (List FieldError) α → Except (List FieldError) α
  | .ok value => .ok value
  | .error errors =>
    .error (errors.map fun error => { error with place := .field name :: error.place })

def errorsOf {α : Type} : Except (List FieldError) α → List FieldError
  | .ok _ => []
  | .error errors => errors

namespace Table

def required {α : Type} (fields : Table) (name : String)
    (read : Value → Except Refusal α) : Except (List FieldError) α :=
  inField name.toList <| inPlace <|
    match fields.find? name.toList with
    | none => .error .missing
    | some value => read value

/-- Read a field that has a value of its own when it is missing. -/
def optional {α : Type} (fields : Table) (name : String) (default : α)
    (read : Value → Except Refusal α) : Except (List FieldError) α :=
  inField name.toList <| inPlace <|
    match fields.find? name.toList with
    | none => .ok default
    | some value => read value

end Table

def nullOr {α : Type} (read : Value → Except Refusal α) : Value → Except Refusal (Option α)
  | .null => .ok none
  | value => (read value).map some

/-- The diagnostic with the given fields. Other fields are passed over. -/
def Diagnostic.ofFields (fields : Table) : Except (List FieldError) Diagnostic :=
  let path := fields.required "path" Value.readText
  let line := fields.required "line" Value.readPositive
  let col := fields.optional "col" none (nullOr Value.readPositive)
  let severity := fields.required "severity" Value.readSeverity
  let text := fields.required "text" Value.readText
  match path, line, col, severity, text with
  | .ok path, .ok line, .ok col, .ok severity, .ok text =>
    .ok { path, location := ⟨line.val, col.map Subtype.val⟩, severity, text,
          one_le_line := line.property,
          one_le_col := by
            intro c hc
            obtain ⟨n, _, rfl⟩ := Option.map_eq_some_iff.mp hc
            exact n.property }
  | path, line, col, severity, text =>
    .error (errorsOf path ++ errorsOf line ++ errorsOf col ++ errorsOf severity
      ++ errorsOf text)

def Marker.ofFields (fields : Table) : Except (List FieldError) Marker :=
  let line := fields.required "line" Value.readPositive
  let col := fields.optional "col" none (nullOr Value.readInteger)
  let message := fields.required "message" Value.readText
  let severity := fields.optional "severity" .error Value.readSeverity
  match line, col, message, severity with
  | .ok line, .ok col, .ok message, .ok severity =>
    .ok { location := ⟨line.val, col⟩, message, severity, one_le_line := line.property }
  | line, col, message, severity =>
    .error (errorsOf line ++ errorsOf col ++ errorsOf message ++ errorsOf severity)

end DiagnosticMarkers
