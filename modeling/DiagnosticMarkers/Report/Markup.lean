import DiagnosticMarkers.Report.Parameters.Reading
import DiagnosticMarkers.Report.Style
import DiagnosticMarkers.Text.Emoji
import DiagnosticMarkers.Text.Quoted
import DiagnosticMarkers.Text.Styled

/-!
# Markup in table cells

Square brackets around a text that begins with a lower case ASCII letter, a number sign, a
slash or an at sign are a tag and are not shown. A slash makes a closing tag, which closes
the last open tag of its name, or the last one of all if it gives no name. Tags that write the
same style have the same name. A backslash in front of a tag shows it as text; two backslashes
there show one. Codes of emoji are replaced, but a code does not reach across a tag.

An equals sign in a tag divides its name from its parameters. A tag that begins with an at sign
is an action, and its parameters are read when it is closed. The name and the parameters of any
other tag are the words for a style. They are read as one only where the text is shown.
-/

namespace DiagnosticMarkers.Report

open Text

inductive MarkupFault where
  /-- A closing tag for a name that is not open. -/
  | notOpen (tag : Text) (position : Nat)
  /-- A closing tag without name where nothing is open. -/
  | nothingOpen (position : Nat)
  /-- A tag gives a color whose components are no numbers. -/
  | component (fault : ComponentFault)
  /-- The parameters of an action, of which `value` is read, have no value. -/
  | parameters (value given : Text) (fault : Parameters.ReadingFault)
  /-- Anything else that keeps a table from being drawn. -/
  | other (words : Text)
deriving DecidableEq, Repr

/-- The words for a fault of markup. Positions count characters from zero. -/
def MarkupFault.message : MarkupFault → Text
  | notOpen tag position =>
    "closing tag '[".toList ++ tag ++ "]' at position ".toList ++ Text.ofNat position
      ++ " doesn't match any open tag".toList
  | nothingOpen position =>
    "closing tag '[/]' at position ".toList ++ Text.ofNat position
      ++ " has nothing to close".toList
  | component fault => fault.message
  | parameters value given (.expression fault) =>
    "error parsing ".toList ++ quoted value ++ " in ".toList ++ quoted given ++ "; ".toList
      ++ fault.message
  | parameters _ given (.value fault) =>
    "error parsing ".toList ++ quoted given ++ "; ".toList ++ fault.message
  | other words => words

inductive Piece where
  /-- Text outside of tags. -/
  | plain (text : Text)
  /-- What backslashes in front of a tag show. -/
  | escaped (text : Text)
  | tag (position : Nat) (text : Text)
deriving DecidableEq, Repr

def beginsTag (c : Char) : Bool :=
  c.isLower || c == '#' || c == '/' || c == '@'

/-- The tag that an opening bracket begins: the text up to the next closing bracket, if no
opening bracket stands before it. -/
def tagText? : Text → Option Text
  | [] => none
  | c :: rest =>
    if beginsTag c then
      match rest.dropWhile fun d => d != ']' && d != '[' with
      | ']' :: _ => some (c :: rest.takeWhile fun d => d != ']')
      | _ => none
    else none

def prependPlain (text : Text) : List Piece → List Piece
  | .plain next :: pieces => .plain (text ++ next) :: pieces
  | pieces => .plain text :: pieces

/-- The parts of a text from a position on. `slashes` backslashes stand in front of it, and
its first `skip` characters belong to a tag. -/
def piecesFrom (position slashes skip : Nat) : Text → List Piece
  | [] => [.plain (List.replicate slashes '\\')]
  | c :: rest =>
    if 0 < skip then piecesFrom (position + 1) 0 (skip - 1) rest
    else if c = '\\' then piecesFrom (position + 1) (slashes + 1) 0 rest
    else if c = '[' then
      match tagText? rest with
      | none =>
        prependPlain (List.replicate (slashes - 1) '\\' ++ ['['])
          (piecesFrom (position + 1) 0 0 rest)
      | some tag =>
        let piece : Piece :=
          if slashes % 2 = 0 then .tag position tag else .escaped ('[' :: tag ++ [']'])
        .escaped (List.replicate (slashes / 2) '\\') :: piece
          :: piecesFrom (position + 1) 0 (tag.length + 1) rest
    else
      prependPlain (List.replicate slashes '\\' ++ [c]) (piecesFrom (position + 1) 0 0 rest)

structure OpenTag where
  name : Text
  parameters : Text
  start : Nat
deriving DecidableEq, Repr

/-- Open a tag whose name and parameters an equals sign divides. -/
def OpenTag.ofText (start : Nat) (tag : Text) : Except MarkupFault OpenTag := do
  let given := tag.takeWhile (· != '=')
  let name ← (styleName given).mapError .component
  return { name, parameters := tag.drop (given.length + 1), start }

/-- Close a tag. The parameters of an action are read now. -/
def OpenTag.close (tag : OpenTag) : Except MarkupFault Unit :=
  if tag.name.head? = some '@' && !tag.parameters.isEmpty then
    let value := Parameters.valueText (trim tag.parameters)
    (Parameters.check value).mapError (.parameters value tag.parameters)
  else .ok ()

/-- Take a tag with `shown` characters in front of it: the tags that are open after it, the
last one first, and the tag that it closes. -/
def applyTag (opened : List OpenTag) (position shown : Nat) (tag : Text) :
    Except MarkupFault (List OpenTag × Option OpenTag) :=
  match tag.takeWhile (· != '=') with
  | '/' :: name =>
    if (trim name).isEmpty then
      match opened with
      | [] => .error (.nothingOpen position)
      | last :: below => last.close.map fun () => (below, some last)
    else do
      let name ← (styleName name).mapError .component
      match opened.find? (·.name = name) with
      | none => throw (.notOpen tag position)
      | some found => found.close.map fun () => (opened.eraseP (·.name = name), some found)
  | _ => return ((← OpenTag.ofText shown tag) :: opened, none)

def OpenTag.style (tag : OpenTag) : Text :=
  tag.name ++ ' ' :: tag.parameters

/-- The part of a text that a tag is open for if nothing closes it. -/
def OpenTag.unclosed (stop : Nat) (tag : OpenTag) : StyledPart :=
  ⟨tag.start, stop, tag.style⟩

/-- The part of a text that a tag was open for. An action that is closed has no words. -/
def OpenTag.closed (stop : Nat) (tag : OpenTag) : StyledPart :=
  ⟨tag.start, stop, if tag.name.head? = some '@' then [] else tag.style⟩

/-- The text of the remaining parts, with `shown` characters in front of it and the given tags
open. Its styled parts count from the start of the whole text and stand in the order in which
their tags are closed; those without end are the last. -/
def renderPieces (shown : Nat) (opened : List OpenTag) :
    List Piece → Except MarkupFault StyledText
  | [] => .ok ⟨[], opened.map (OpenTag.unclosed shown)⟩
  | .plain text :: pieces | .escaped text :: pieces => do
    let text := withoutControls (replaceCodes text)
    let rest ← renderPieces (shown + text.length) opened pieces
    return ⟨text ++ rest.text, rest.parts⟩
  | .tag position tag :: pieces => do
    let (opened, closed) ← applyTag opened position shown tag
    let rest ← renderPieces shown opened pieces
    return ⟨rest.text, (closed.map (OpenTag.closed shown)).toList ++ rest.parts⟩

/-- Put a part in front of those that begin where it does or behind it. -/
def insertPart (part : StyledPart) : List StyledPart → List StyledPart
  | [] => [part]
  | next :: parts =>
    if part.start ≤ next.start then part :: next :: parts else next :: insertPart part parts

/-- The text that markup shows. Its parts are ordered by where they begin, and of those that begin
together the one that was closed last comes first. -/
def renderMarkup (text : Text) : Except MarkupFault StyledText := do
  let rendered ← renderPieces 0 [] (piecesFrom 0 0 0 text)
  let ordered := rendered.parts.foldl (fun parts part => insertPart part parts) []
  return { rendered with parts := ordered }

end DiagnosticMarkers.Report
