import DiagnosticMarkers.Report.Parameters.Grammar.Function
import DiagnosticMarkers.Report.Parameters.Grammar.Operation

/-!
# Grammar of parameters

The parameters of an action are one expression. An expression in a template is read in the same
way, in brackets that are put around it.
-/

namespace DiagnosticMarkers.Report.Parameters.Grammar

open Phrase

def conditional (rules : Rules) : Phrase Expression := do
  let positive ← rules .disjunction
  keyword "if"
  let condition ← rules .disjunction
  keyword "else"
  return .conditional condition positive (← rules .expression)

def soundExpression (rules : Rules) : Phrase Expression :=
  firstOf [conditional rules, rules .disjunction, function rules]

def statementWords : List Text :=
  ["print".toList, "exec".toList]

def isStatementWord (expression : Expression) : Bool :=
  expression.name?.any statementWords.contains

def softKeywords : List Text :=
  ["_".toList, "case".toList, "match".toList]

/-- Does a keyword of some places begin with the name? -/
def beginsSoftKeyword (found : Text) : Bool :=
  softKeywords.any fun word => found.isPrefixOf word

/-- Two expressions that stand side by side, and the number of brackets around them. A name in
front of a quoted text is none of them: it may have been meant to tell how to read the text. -/
def neighbors (rules : Rules) : Phrase (Expression × Nat) := do
  notAhead do
    let found ← name
    if beginsSoftKeyword found then return ()
    else token fun | .quoted _ => some () | _ => none
  let first ← rules .disjunction
  let _ ← withoutSearching (soundExpression rules)
  return (first, ← depth)

/-- The fault of an expression that another one follows, or that has only one of two words. -/
def misplacedExpression (rules : Rules) : Phrase Expression := do
  match ← optional (neighbors rules) with
  | some (first, depth) =>
    if isStatementWord first || depth = 0 then refuse else raise .missingComma
  | none =>
    let _ ← rules .disjunction
    keyword "if"
    let _ ← rules .disjunction
    notAhead (keyword "else" <|> mark ":")
    raise .missingElse

/-- A word that was a statement once, with operands behind it. -/
def bareStatement (rules : Rules) : Phrase Expression := do
  let found ← name
  notAhead (mark "(")
  let _ ← tupleOr (rules .element)
  if statementWords.contains found then raise (.missingBrackets found) else refuse

/-- The fault of an equals sign, or of a colon with one, where nothing is assigned. -/
def misassignment (rules : Rules) : Phrase Expression :=
  let noAssignment : Phrase Unit := notAhead (oneOf ["=", ":="])
  let namedTarget : Phrase Expression := do
    let target ← rules .expression
    mark ":="
    let _ ← rules .expression
    raise (.namedTarget target.description)
  let singleEquals : Phrase Expression := do
    let _ ← name
    mark "="
    let _ ← rules .bitwiseOr
    noAssignment
    raise .singleEquals
  let constant (word : String) : Phrase Expression := do
    keyword word
    return .constant .nothing
  let assignedTo : Phrase Expression := do
    notAhead (firstOf [list rules, tuple rules, generator rules, constant "True",
      constant "None", constant "False"])
    let target ← rules .bitwiseOr
    mark "="
    let _ ← rules .bitwiseOr
    noAssignment
    raise (.assignedTo target.description)
  firstOf [namedTarget, singleEquals, assignedTo]

/-- What a rule stands for. -/
def phraseOf (rules : Rules) : Rule → Phrase Expression
  | .expression => firstOf [whenSearching (misplacedExpression rules),
      whenSearching (bareStatement rules), soundExpression rules]
  | .element => starred (rules .bitwiseOr) <|> rules .expression
  | .disjunction => joined "or" (rules .conjunction)
  | .conjunction => joined "and" (rules .inversion)
  | .inversion => inversion rules
  | .bitwiseOr => leftward ["|"] (rules .bitwiseXor)
  | .bitwiseXor => leftward ["^"] (rules .bitwiseAnd)
  | .bitwiseAnd => leftward ["&"] (rules .shift)
  | .shift => leftward ["<<", ">>"] (rules .sum)
  | .sum => leftward ["+", "-"] (rules .product)
  | .product => leftward ["*", "/", "//", "%", "@"] (rules .factor)
  | .factor => factor rules
  | .awaited => awaited rules
  | .primary => primary rules
  | .arguments => do return .tuple (← arguments rules)
  | .target => target rules
  | .plainTarget => plainTarget rules (subscripts rules)
  | .targetObject => targetObject (atom rules) (part rules)
  | .misassignment => misassignment rules

/-- The rules, each of which may use the others down to a number of levels. -/
def rules : Nat → Rules
  | 0, _ => refuse
  | levels + 1, rule => remembered rule (phraseOf (rules levels) rule)

/-- A whole text that is one expression. -/
def wholeExpression (rules : Rules) : Phrase Expression := do
  let found ← tupleOr (rules .expression)
  let _ ← many (token fun | .lineEnd => some () | _ => none)
  token fun | .finish => some () | _ => none
  return found

/-- The start of a text that is an expression of a template. -/
def templateExpression (rules : Rules) : Phrase Expression :=
  tupleOr (rules .element)

end DiagnosticMarkers.Report.Parameters.Grammar
