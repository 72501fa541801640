import DiagnosticMarkers.Report.Parameters.Phrase

/-!
# Items and loops

Items are expressions with a name or a star in front of them, with commas between them. A
comprehension builds them in loops, of which each has targets, a source and conditions. A target is
a name, a part of an object, or targets in brackets.
-/

namespace DiagnosticMarkers.Report.Parameters.Grammar

open Phrase

/-! ## Items -/

def namedExpression (rules : Rules) : Phrase Expression := do
  let target ← name
  mark ":="
  return .named target (← rules .expression)

def unnamedExpression (rules : Rules) : Phrase Expression := do
  let value ← rules .expression
  notAhead (mark ":=")
  return value

/-- An expression that may be given a name. -/
def expression (rules : Rules) : Phrase Expression :=
  firstOf [namedExpression rules, whenSearching (rules .misassignment), unnamedExpression rules]

def starred (operand : Phrase Expression) : Phrase Expression := do
  mark "*"
  return .starred (← operand)

/-- An item of a list, a set or a tuple in brackets. -/
def item (rules : Rules) : Phrase Expression :=
  starred (rules .bitwiseOr) <|> expression rules

def items (rules : Rules) : Phrase (List Expression) := do
  let found ← separated (item rules)
  optionalComma
  return found

/-- A single expression, or a tuple without brackets if there is a comma. -/
def tupleOr (operand : Phrase Expression) : Phrase Expression := do
  let found ← separated operand
  match found, ← optional (mark ",") with
  | [single], none => return single
  | _, _ => return .tuple found

/-- A word with an expression or without, which is no value here. -/
def yielded (rules : Rules) : Phrase Expression := do
  keyword "yield"
  let source : Phrase Expression := do
    keyword "from"
    rules .expression
  return .yield (← optional (source <|> tupleOr (rules .element)))

/-! ## Targets of loops -/

def aheadOfPart : Phrase Unit :=
  ahead (oneOf ["(", "[", "."])

/-- What the last part of a target is a part of. -/
def targetObject (operand : Phrase Expression) (part : Phrase (Expression → Expression)) :
    Phrase Expression := do
  let first ← operand
  aheadOfPart
  let parts ← many do
    let part ← part
    aheadOfPart
    return part
  return parts.foldl (fun object part => part object) first

/-- A member or an element of an object. -/
def partTarget (rules : Rules) (subscripts : Phrase Expression) : Phrase Expression := do
  let object ← rules .targetObject
  let member : Phrase Expression := do
    mark "."
    return .member object (← name)
  let element : Phrase Expression := do
    return .subscript object (← bracketed .square subscripts)
  let found ← member <|> element
  notAhead aheadOfPart
  return found

/-- Targets in round brackets: none, one with a comma, or more. -/
def tupleTargets (rules : Rules) : Phrase (List Expression) := do
  let first ← rules .target
  mark ","
  match ← optional (separated (rules .target)) with
  | none => return [first]
  | some others =>
    optionalComma
    return first :: others

def listTargets (rules : Rules) : Phrase (List Expression) := do
  let found ← separated (rules .target)
  optionalComma
  return found

def plainTarget (rules : Rules) (subscripts : Phrase Expression) : Phrase Expression :=
  firstOf [
    partTarget rules subscripts,
    do return .name (← name),
    bracketed .round (rules .plainTarget),
    do return .tuple ((← bracketed .round (optional (tupleTargets rules))).getD []),
    do return .list ((← bracketed .square (optional (listTargets rules))).getD [])]

def target (rules : Rules) : Phrase Expression :=
  (do
    mark "*"
    notAhead (mark "*")
    return .starred (← rules .target)) <|> rules .plainTarget

def targets (rules : Rules) : Phrase Unit := do
  let _ ← separated (rules .target)
  optionalComma

/-! ## Loops of comprehensions -/

def loopWord : Phrase Unit := do
  let _ ← optional (keyword "async")
  keyword "for"

/-- A loop whose target cannot be assigned to. -/
def misplacedTarget (rules : Rules) : Phrase Unit := do
  loopWord
  let found ← tupleOr (rules .element)
  match found.invalidTarget? with
  | some part => raise (.target part.description)
  | none => refuse

/-- A loop. Once its targets and the word behind them are read, it is nothing else. -/
def loop (rules : Rules) : Phrase Unit := do
  let head ← optional do
    loopWord
    targets rules
    keyword "in"
  match head with
  | none => whenSearching (misplacedTarget rules)
  | some () =>
    let _ ← rules .disjunction
    let _ ← many do
      keyword "if"
      rules .disjunction

def loops (rules : Rules) : Phrase Unit := do
  let _ ← many1 (loop rules)

end DiagnosticMarkers.Report.Parameters.Grammar
