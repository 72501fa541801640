import DiagnosticMarkers.Group
import DiagnosticMarkers.Path.Filter
import DiagnosticMarkers.Suppression
import DiagnosticMarkers.Text.Quoted
import DiagnosticMarkers.Text.Word
import DiagnosticMarkers.Validation

/-!
# Settings

How output becomes markers and how the checker is called. Settings come from a table whose
keys may be written with dashes or underscores; of two spellings of a key the later one
counts.
-/

namespace DiagnosticMarkers

structure Settings where
  /-- The heading of each message. -/
  heading : Text := Marker.defaultHeading
  /-- The words that suppress a marker. -/
  tokens : List Text := Suppression.defaultTokens
  caseSensitive : Bool := true
  /-- The program that checks types. -/
  executable : Text := "mypy".toList
  /-- What is passed to the checker in front of the file. -/
  arguments : List Text := ["--show-column-numbers".toList, "--follow-imports=silent".toList]
deriving DecidableEq, Repr

namespace Settings

def caseMode (settings : Settings) : CaseMode :=
  if settings.caseSensitive then .sensitive else .insensitive

def fieldNames : List String :=
  ["message_prefix", "suppression_tokens", "case_sensitive_paths", "mypy_executable",
    "mypy_args"]

def normalizeKey (key : Text) : Text :=
  Text.substitute '-' '_' key

/-- The table with normalized keys. The later spelling of a key replaces the earlier one. -/
def normalizeKeys (given : Table) : Table :=
  Table.ofEntries (given.map fun (key, value) => (normalizeKey key, value))

/-- Is the text a word and nothing else, but for a newline at its end? -/
def isToken (token : Text) : Bool :=
  let word := if token.getLast? = some '\n' then token.dropLast else token
  !word.isEmpty && word.all Text.isWord

/-- Trimmed tokens without repetitions. Each one must be a word; the first that is not is
named. -/
def checkTokens (given : List Text) : Except Refusal (List Text) :=
  match given.find? fun token => !isToken (Text.trim token) with
  | some token => .error (.ruleBroken ("invalid suppression token ".toList ++ Text.quoted token))
  | none => .ok (given.map Text.trim).eraseDups

/-- The trimmed name of the executable, which must not be empty. -/
def checkExecutable (given : Text) : Except Refusal Text :=
  if (Text.trim given).isEmpty then
    .error (.ruleBroken "mypy_executable must not be empty".toList)
  else .ok (Text.trim given)

/-- Read a list of texts and check it as a whole. -/
def readChecked (check : List Text → Except Refusal (List Text)) (value : Value) :
    Except (List FieldError) (List Text) := do
  let texts ← value.readTexts
  inPlace (check texts)

def readField {α : Type} (fields : Table) (name : String) (default : α)
    (read : Value → Except (List FieldError) α) : Except (List FieldError) α :=
  inField name.toList <|
    match fields.find? name.toList with
    | none => .ok default
    | some value => read value

/-- The errors of keys that are no field names, in the order of the keys. -/
def unknownKeys (fields : Table) : List FieldError :=
  (fields.filter fun (key, _) => !fieldNames.contains (String.ofList key)).map
    fun (key, _) => ⟨[.field key], .unknownKey⟩

/-- The settings in a table with normalized keys, or all that is wrong with it. -/
def ofFields (fields : Table) : Except (List FieldError) Settings :=
  let defaults : Settings := {}
  let heading :=
    readField fields "message_prefix" defaults.heading fun value => inPlace value.readText
  let tokens :=
    readField fields "suppression_tokens" defaults.tokens (readChecked checkTokens)
  let caseSensitive :=
    readField fields "case_sensitive_paths" defaults.caseSensitive
      fun value => inPlace value.readBoolean
  let executable :=
    readField fields "mypy_executable" defaults.executable
      fun value => inPlace (value.readText >>= checkExecutable)
  let arguments :=
    readField fields "mypy_args" defaults.arguments Value.readTexts
  match heading, tokens, caseSensitive, executable, arguments, unknownKeys fields with
  | .ok heading, .ok tokens, .ok caseSensitive, .ok executable, .ok arguments, [] =>
    .ok { heading, tokens, caseSensitive, executable, arguments }
  | heading, tokens, caseSensitive, executable, arguments, unknown =>
    .error (errorsOf heading ++ errorsOf tokens ++ errorsOf caseSensitive
      ++ errorsOf executable ++ errorsOf arguments ++ unknown)

def ofTable (table : Table) : Except (List FieldError) Settings :=
  ofFields (normalizeKeys table)

end Settings

end DiagnosticMarkers
