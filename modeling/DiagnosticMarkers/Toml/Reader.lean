import DiagnosticMarkers.Number
import DiagnosticMarkers.Text.Basic

/-!
# Reading TOML

A reader takes something from the front of a text and leaves the rest, or finds a fault.
Blanks are spaces and tabs; a comment runs to the end of its line.

A literal string stands between apostrophes and has no escapes; a basic string stands
between quotation marks and has some. Three marks open and close a string of several lines,
which may begin with a newline that is no part of it and end with up to two marks that are.
-/

namespace DiagnosticMarkers.Toml

inductive Fault where
  | malformed
  /-- A decimal integer has more digits than are converted. -/
  | overlong (number : OverlongNumber)
  /-- Values stand so deep in each other that the call stack has no room for them. -/
  | tooDeep
deriving DecidableEq, Repr

/-- Takes something from the front of a text. -/
abbrev Reader := StateT Text (Except Fault)

def malformed {α : Type} : Reader α :=
  throw .malformed

def skipWhile (cls : Char → Bool) : Reader Unit :=
  modify fun text => text.dropWhile cls

def takeWhile (cls : Char → Bool) : Reader Text := fun text =>
  .ok (text.takeWhile cls, text.dropWhile cls)

/-- Pass over the given text if it comes next, and tell whether it did. -/
def accept (given : String) : Reader Bool := fun text =>
  if Text.startsWith given.toList text then .ok (true, text.drop given.length)
  else .ok (false, text)

/-- Pass over the given text, which must come next. -/
def expect (given : String) : Reader Unit := do
  unless ← accept given do malformed

def isBlank (c : Char) : Bool :=
  c == ' ' || c == '\t'

def isSpace (c : Char) : Bool :=
  isBlank c || c == '\n'

/-- Characters that stand in no comment and in no text on one line: the ASCII controls
without the tab. -/
def isControl (c : Char) : Bool :=
  (c.toNat < 32 && c != '\t') || c.toNat == 127

def skipBlanks : Reader Unit :=
  skipWhile isBlank

/-- Pass over a comment, if one comes next, up to the end of its line. -/
def skipComment : Reader Unit := do
  if (← get).head? = some '#' then
    let comment ← takeWhile (· != '\n')
    if comment.any isControl then malformed

/-- Pass over blanks, newlines and comments, as they come. Each round passes over a comment,
so there are no more rounds than characters. -/
def skipLines : Nat → Reader Unit
  | 0 => skipWhile isSpace
  | rounds + 1 => do
    skipWhile isSpace
    if (← get).head? = some '#' then
      skipComment
      skipLines rounds

def skipSpace : Reader Unit := do
  skipLines (← get).length

/-! ## Strings -/

def hexValue? (c : Char) : Option Nat :=
  if c.isDigit then some (c.toNat - 48)
  else if 'a' ≤ c && c ≤ 'f' then some (c.toNat - 87)
  else if 'A' ≤ c && c ≤ 'F' then some (c.toNat - 55)
  else none

/-- The character with a code point in hexadecimal digits. Surrogates are no characters. -/
def codePoint (digits : Text) : Except Fault Char :=
  match digits.mapM hexValue? with
  | none => .error .malformed
  | some values =>
    let n := values.foldl (fun value digit => 16 * value + digit) 0
    if h : n.isValidChar then .ok (Char.ofNatAux n h) else .error .malformed

/-- The character behind a backslash and one more character. -/
def escaped? : Char → Option Char
  | 'b' => some '\x08'
  | 't' => some '\t'
  | 'n' => some '\n'
  | 'f' => some '\x0c'
  | 'r' => some '\r'
  | '"' => some '"'
  | '\\' => some '\\'
  | _ => none

def consChar (c : Except Fault Char) (rest : Except Fault (Text × Text)) :
    Except Fault (Text × Text) := do
  let c ← c
  let (text, rest) ← rest
  return (c :: text, rest)

def basic : Reader Text
  | '"' :: rest => .ok ([], rest)
  | '\\' :: 'u' :: a :: b :: c :: d :: rest => consChar (codePoint [a, b, c, d]) (basic rest)
  | '\\' :: 'U' :: a :: b :: c :: d :: e :: f :: g :: h :: rest =>
    consChar (codePoint [a, b, c, d, e, f, g, h]) (basic rest)
  | '\\' :: c :: rest =>
    match escaped? c with
    | some meant => consChar (.ok meant) (basic rest)
    | none => .error .malformed
  | c :: rest =>
    if isControl c || c == '\\' then .error .malformed else consChar (.ok c) (basic rest)
  | [] => .error .malformed

/-- Where in a basic string of several lines the reading is: in its text, behind a backslash
and blanks that must end the line, or in the space that such a line end hides. -/
inductive Mode where
  | inText
  | lineEnd
  | hidden
deriving DecidableEq

/-- The rest of a basic string of several lines, up to the first three quotation marks. -/
def multilineBasic (mode : Mode) : Text → Except Fault (Text × Text)
  | [] => .error .malformed
  | '"' :: '"' :: '"' :: rest =>
    if mode = .lineEnd then .error .malformed else .ok ([], rest)
  | '\\' :: 'u' :: a :: b :: c :: d :: rest =>
    if mode = .lineEnd then .error .malformed
    else consChar (codePoint [a, b, c, d]) (multilineBasic .inText rest)
  | '\\' :: 'U' :: a :: b :: c :: d :: e :: f :: g :: h :: rest =>
    if mode = .lineEnd then .error .malformed
    else consChar (codePoint [a, b, c, d, e, f, g, h]) (multilineBasic .inText rest)
  | '\\' :: c :: rest =>
    if mode = .lineEnd then .error .malformed
    else if c = '\n' then multilineBasic .hidden rest
    else if isBlank c then multilineBasic .lineEnd rest
    else
      match escaped? c with
      | some meant => consChar (.ok meant) (multilineBasic .inText rest)
      | none => .error .malformed
  | c :: rest =>
    if mode = .lineEnd then
      if c = '\n' then multilineBasic .hidden rest
      else if isBlank c then multilineBasic .lineEnd rest
      else .error .malformed
    else if mode = .hidden && isSpace c then multilineBasic .hidden rest
    else if (isControl c && c != '\n') || c == '\\' then .error .malformed
    else consChar (.ok c) (multilineBasic .inText rest)

def literal : Reader Text := do
  let text ← takeWhile (· != '\'')
  expect "'"
  if text.any isControl then malformed
  return text

/-- The rest of a literal string of several lines, up to the first three apostrophes. -/
def multilineLiteral : Text → Except Fault (Text × Text)
  | '\'' :: '\'' :: '\'' :: rest => .ok ([], rest)
  | c :: rest =>
    if isControl c && c != '\n' then .error .malformed
    else consChar (.ok c) (multilineLiteral rest)
  | [] => .error .malformed

/-- Up to two marks in front of the end belong to a string of several lines. -/
def extraMarks (mark : String) (text : Text) : Reader Text := do
  if ← accept mark then
    if ← accept mark then return text ++ mark.toList ++ mark.toList
    return text ++ mark.toList
  return text

def string? : Reader (Option Text) := do
  if ← accept "\"\"\"" then
    let _ ← accept "\n"
    let text ← multilineBasic .inText
    return some (← extraMarks "\"" text)
  else if ← accept "\"" then return some (← basic)
  else if ← accept "'''" then
    let _ ← accept "\n"
    let text ← multilineLiteral
    return some (← extraMarks "'" text)
  else if ← accept "'" then return some (← literal)
  else return none

end DiagnosticMarkers.Toml
