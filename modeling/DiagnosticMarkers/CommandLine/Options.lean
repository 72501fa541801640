import DiagnosticMarkers.Path.Name
import DiagnosticMarkers.Text.Basic
import DiagnosticMarkers.Text.Quoted

/-!
# Options of the command

Options and other arguments may be mixed. A long option takes its value after an equals sign
or from the next argument; short options may be written together, and the last of them takes
its value from the rest of the argument or from the next one. Two dashes end the options.

Where an argument is not known, the command is named that may have been meant: two words are
similar if much of both is made of common parts in the same order. The longest common part is found
first, then the longest common parts on either side of it.
-/

namespace DiagnosticMarkers.Text

/-! ## Similar words -/

def commonStart : Text → Text → Nat
  | a :: as, b :: bs => if a = b then commonStart as bs + 1 else 0
  | _, _ => 0

structure CommonPart where
  left : Nat
  right : Nat
  size : Nat

/-- The longest common part, the one that begins first in the first text, then in the
second. -/
def longestCommon (a b : Text) : CommonPart :=
  let candidates := (List.range a.length).flatMap fun i =>
    (List.range b.length).map fun j =>
      (⟨i, j, commonStart (a.drop i) (b.drop j)⟩ : CommonPart)
  candidates.foldl (fun best part => if best.size < part.size then part else best) ⟨0, 0, 0⟩

/-- The number of characters in common parts. Each round splits the first text, so there are
no more rounds than it has characters. -/
def commonSize : Nat → Text → Text → Nat
  | 0, _, _ => 0
  | rounds + 1, a, b =>
    let part := longestCommon a b
    if part.size = 0 then 0
    else
      part.size + commonSize rounds (a.take part.left) (b.take part.right)
        + commonSize rounds (a.drop (part.left + part.size)) (b.drop (part.right + part.size))

/-- Do at least three fifths of both words lie in common parts? -/
def isSimilar (a b : Text) : Bool :=
  3 * (a.length + b.length) ≤ 10 * commonSize a.length a b

end DiagnosticMarkers.Text

namespace DiagnosticMarkers.CommandLine

open Text

/-! ## Faults of usage -/

def commandName : Text := "check".toList

inductive UsageFault where
  /-- The option is not known. A word behind it may be a misspelled command. -/
  | unknownOption (name : Text) (word : Option Text)
  | missingValue (option : Text)
  | unexpectedValue (option : Text) (word : Option Text)
  | missingCommand
  /-- The command is not known. The word that may be a misspelling is not always its name. -/
  | unknownCommand (name : Text) (word : Option Text)
  /-- A path holds the null character. -/
  | nullInPath
  | missingSource
  | sourceNotFound (source : Text)
  | sourceIsDirectory (source : Text)
  | extraArguments (arguments : List Text)
  /-- Both ways to get output are given, or none. -/
  | notOneOutput
  | outputNotFound (path : PathName)
  /-- The help screen is asked for. -/
  | helpWanted
deriving DecidableEq, Repr

namespace UsageFault

/-- A sentence, and the question for the command behind it if a word is similar to the
command. The question replaces the full stops at the end. -/
def withSuggestion (sentence : Text) (word : Option Text) : Text :=
  if word.any (isSimilar commandName) then
    dropEndWhile (· == '.') sentence ++ ". Did you mean ".toList ++ quoted commandName
      ++ "?".toList
  else sentence

def isControlCode (c : Char) : Bool :=
  c.toNat < 0x20 || (0x7F ≤ c.toNat && c.toNat < 0xA0)

/-- An argument as it is named without quotes: its controls are written as numbers. -/
def plainly (argument : Text) : Text :=
  argument.flatMap fun c =>
    if isControlCode c then '\\' :: 'x' :: hexDigits 2 c.toNat else [c]

def message : UsageFault → Text
  | unknownOption name word =>
    withSuggestion ("No such option: ".toList ++ plainly name) word
  | missingValue option => "Option ".toList ++ quoted option ++ " requires an argument.".toList
  | unexpectedValue option word =>
    withSuggestion ("Option ".toList ++ quoted option ++ " does not take a value.".toList) word
  | missingCommand => "Missing command.".toList
  | unknownCommand name word =>
    withSuggestion ("No such command ".toList ++ quoted name ++ ".".toList) word
  | nullInPath => "Value error, embedded null byte".toList
  | missingSource => "Missing parameter: source".toList
  | sourceNotFound source => "file ".toList ++ quoted source ++ " does not exist.".toList
  | sourceIsDirectory source => "file ".toList ++ quoted source ++ " is a directory.".toList
  | extraArguments arguments =>
    "Got unexpected extra argument(s) (".toList ++ joinWith [' '] (arguments.map plainly)
      ++ ")".toList
  | notOneOutput => "Provide exactly one of --output or --run.".toList
  | outputNotFound path => "mypy output file not found: ".toList ++ path.display
  | helpWanted => "Turn mypy output into editor markers.".toList

end UsageFault

/-! ## Options -/

/-- The options and arguments of the command. Of repeated values the last one counts. -/
structure Request where
  output : Option Text := none
  run : Bool := false
  config : Option Text := none
  json : Bool := false
  noPathFilter : Bool := false
  verbose : Bool := false
  help : Bool := false
  /-- Arguments that belong to no option, in order. -/
  arguments : List Text := []
deriving DecidableEq, Repr

inductive Effect where
  | flag (set : Request → Request)
  | value (set : Text → Request → Request)

def longOption? (name : Text) : Option Effect :=
  match String.ofList name with
  | "--output" => some (.value fun value request => { request with output := some value })
  | "--run" => some (.flag fun request => { request with run := true })
  | "--config" => some (.value fun value request => { request with config := some value })
  | "--json" => some (.flag fun request => { request with json := true })
  | "--no-path-filter" => some (.flag fun request => { request with noPathFilter := true })
  | "--verbose" => some (.flag fun request => { request with verbose := true })
  | "--help" => some (.flag fun request => { request with help := true })
  | _ => none

def shortOption? : Char → Option Effect
  | 'o' => longOption? "--output".toList
  | 'v' => longOption? "--verbose".toList
  | _ => none

/-- Is the argument an option? A dash alone is none. -/
def isOption : Text → Bool
  | '-' :: _ :: _ => true
  | _ => false

/-- What remains of an argument to be read: it is done, or its option with this name takes a
value from the next argument. -/
inductive Rest where
  | done (request : Request)
  | needsValue (name : Text) (set : Text → Request → Request) (request : Request)

def readLetters (request : Request) : Text → Except UsageFault Rest
  | [] => .ok (.done request)
  | letter :: letters =>
    match shortOption? letter with
    | none => .error (.unknownOption ['-', letter] none)
    | some (.flag set) => readLetters (set request) letters
    | some (.value set) =>
      if letters.isEmpty then .ok (.needsValue ['-', letter] set request)
      else .ok (.done (set letters request))

def readOption (request : Request) (argument : Text) : Except UsageFault Rest :=
  let name := argument.takeWhile (· != '=')
  let attached : Option Text :=
    match argument.dropWhile (· != '=') with
    | _ :: value => some value
    | [] => none
  match longOption? name, attached with
  | some (.flag set), none => .ok (.done (set request))
  | some (.flag _), some _ => .error (.unexpectedValue name none)
  | some (.value set), some value => .ok (.done (set value request))
  | some (.value set), none => .ok (.needsValue name set request)
  | none, _ =>
    if startsWith ['-', '-'] argument then .error (.unknownOption name none)
    else readLetters request (argument.drop 1)

def readArguments (request : Request) : List Text → Except UsageFault Request
  | [] => .ok request
  | argument :: rest =>
    if argument = ['-', '-'] then
      .ok { request with arguments := request.arguments ++ rest }
    else if isOption argument then
      match readOption request argument with
      | .error fault => .error fault
      | .ok (.done request) => readArguments request rest
      | .ok (.needsValue name set request) =>
        match rest with
        | [] => .error (.missingValue name)
        | value :: rest => readArguments (set value request) rest
    else readArguments { request with arguments := request.arguments ++ [argument] } rest

/-- What is wrong with an option in front of the command. The only one there asks for help.
`word` may be a misspelled command. -/
def leadingOption (argument : Text) (word : Option Text) : UsageFault :=
  let name := argument.takeWhile (· != '=')
  if name = "--help".toList then
    if name = argument then .helpWanted else .unexpectedValue name word
  else if startsWith ['-', '-'] argument then .unknownOption name word
  else .unknownOption (argument.take 2) word

/-- The arguments behind the name of the command. A name that looks like an option is read as
one first, and the word behind it is then taken for a misspelled command. -/
def behindName (name : Text) (rest : List Text) : Except UsageFault (List Text) :=
  if name = commandName then .ok rest
  else if name = ['-', '-'] then .error (.unknownCommand name rest.head?)
  else if isOption name then .error (leadingOption name rest.head?)
  else .error (.unknownCommand name (some name))

/-- The arguments behind the command. Options in front of it are read first; two dashes end
them. -/
def behindCommand : List Text → Except UsageFault (List Text)
  | [] => .error .helpWanted
  | argument :: rest =>
    if argument = ['-', '-'] then
      match rest with
      | [] => .error .missingCommand
      | name :: rest => behindName name rest
    else if isOption argument then .error (leadingOption argument none)
    else behindName argument rest

def readRequest (arguments : List Text) : Except UsageFault Request := do
  let request ← readArguments {} (← behindCommand arguments)
  if request.help then throw .helpWanted
  return request

end DiagnosticMarkers.CommandLine
