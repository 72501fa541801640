import DiagnosticMarkers.Report.Parameters.Grammar
import DiagnosticMarkers.Report.Parameters.Value
import DiagnosticMarkers.Text.Word

/-!
# Reading parameters

Parameters are read for their value, in one pass or two. What counts if there are two faults: a
token that cannot be read counts more than tokens that do not fit together, wherever it stands.
-/

namespace DiagnosticMarkers.Report.Parameters

open Text

/-- Has a bracket been open since an earlier line than that of a token? Then it has never been
closed. -/
def Obstacle.neverClosed? (obstacle : Obstacle) (last : Lexeme) : Option Fault :=
  obstacle.bracket.bind fun bracket =>
    if bracket.line < last.line then some (.neverClosed bracket.pair) else none

/-- A fault of tokens, unless what keeps the text from being read to its end counts more. If
that is late it may only be that a bracket is never closed. -/
def Tokens.faultOr (tokens : Tokens) (reported : Fault → Fault) (fault : Fault)
    (last : Option Lexeme) : Fault :=
  match tokens.obstacle, last with
  | some obstacle, some last =>
    if obstacle.late then ((obstacle.neverClosed? last).map reported).getD fault
    else obstacle.fault
  | _, _ => fault

/-- The fault of tokens in which no fault has been found, by the last token that each pass has
looked at. -/
def Tokens.generalFault (tokens : Tokens) (reported : Fault → Fault)
    (first second : Option Lexeme) : Fault :=
  match first.map Lexeme.token with
  | some Token.indent => reported .unexpectedIndent
  | some Token.dedent => reported .unexpectedDedent
  | _ => tokens.faultOr reported (reported .malformed) second

def Tokens.last? (tokens : Tokens) (reached : Nat) : Option Lexeme :=
  tokens.lexemes[reached - 1]?

/-- The fault that has interrupted reading. If the end of the text has been seen there is no
other one. -/
def Interruption.toFault (tokens : Tokens) (reported : Fault → Fault) : Interruption → Fault
  | obstacle found => found
  | fault found reached =>
    let last := tokens.last? reached
    if last.any Lexeme.atEnd then found else tokens.faultOr reported found last

/-- Read a text. Between two tokens that are read there are fewer levels than rules. -/
def readWith (phrase : Rules → Phrase Expression) (reported : Fault → Fault)
    (expression : Text → Except Fault Unit) (text : Text) : Except Fault Expression :=
  let tokens := tokens text
  let size := tokens.lexemes.size
  let pass (searching : Bool) (reached : Nat) :=
    phrase (Grammar.rules (20 * (size + 2))) { tokens, searching, reported, expression }
      { reached, memories := Array.replicate (size + 1) [] }
  match pass false 0 with
  | .error interruption => .error (interruption.toFault tokens reported)
  | .ok (some found, _) => .ok found
  | .ok (none, state) =>
    match pass true state.reached with
    | .error interruption => .error (interruption.toFault tokens reported)
    | .ok (_, after) =>
      .error (tokens.generalFault reported (tokens.last? state.reached)
        (tokens.last? after.reached))

/-- Read an expression of a template. Templates in it are nested at most a number of times. -/
def readTemplateExpression : Nat → Text → Except Fault Unit
  | 0, _ => .ok ()
  | levels + 1, text => do
    let _ ← readWith Grammar.templateExpression .inTemplate (readTemplateExpression levels) text

inductive ReadingFault where
  | expression (fault : Fault)
  | value (fault : ValueFault)
deriving DecidableEq, Repr

/-- Read parameters for their value. Blanks in front of them do not count. -/
def check (text : Text) : Except ReadingFault Unit := do
  let text := text.dropWhile fun c => c = ' ' || c = '\t'
  if text.contains '\x00' then throw (.value .nullCharacter)
  let found ← (readWith Grammar.wholeExpression id (readTemplateExpression text.length)
    (unifyNewlines text)).mapError .expression
  let _ ← found.evaluate.mapError .value

def inActionName (c : Char) : Bool :=
  isWord c || c == '.'

/-- What is read for the value of an action: the brackets behind its name, empty brackets if
there are none, or all of it if it is not of that form. -/
def valueText (action : Text) : Text :=
  let behind := action.dropWhile inActionName
  match behind with
  | [] => "()".toList
  | c :: _ =>
    if c = '(' && behind.getLast? = some ')' && !behind.contains '\n' then behind else action

end DiagnosticMarkers.Report.Parameters
