import DiagnosticMarkers.Report.Parameters.Grammar.Loop

/-!
# Arguments of calls

Arguments are given by place, by name, or by what a star or two stars unpack. An argument by
place stands in front of those by name.
-/

namespace DiagnosticMarkers.Report.Parameters.Grammar

open Phrase

def misnamedArgument (rules : Rules) : Phrase Expression :=
  let constant (word : String) : Phrase Expression := do
    keyword word
    mark "="
    raise (.target word)
  let generator : Phrase Expression := do
    let _ ← name
    mark "="
    let _ ← rules .expression
    loops rules
    raise .singleEquals
  let noName : Phrase Expression := do
    notAhead do
      let _ ← name
      mark "="
    let _ ← rules .expression
    mark "="
    raise (.argument .assignedExpression)
  firstOf [constant "True", constant "False", constant "None", generator, noName]

def namedArgument (rules : Rules) : Phrase Expression :=
  whenSearching (misnamedArgument rules) <|> do
    let target ← name
    mark "="
    return .argument (some target) (← rules .expression)

/-- A starred argument, whose items are arguments. -/
def starredArgument (rules : Rules) : Phrase Expression :=
  starred (rules .expression)

/-- An argument whose entries are arguments by name. -/
def unpackedArgument (rules : Rules) : Phrase Expression := do
  mark "**"
  return .argument none (← rules .expression)

def namedArguments (rules : Rules) : Phrase (List Expression) :=
  let starredOr := separated (namedArgument rules <|> starredArgument rules)
  let unpackedOr := separated (namedArgument rules <|> unpackedArgument rules)
  let both : Phrase (List Expression) := do
    let first ← starredOr
    mark ","
    return first ++ (← unpackedOr)
  firstOf [both, starredOr, unpackedOr]

def placedArgument (rules : Rules) : Phrase Expression :=
  starredArgument rules <|> do
    let value ← namedExpression rules <|> unnamedExpression rules
    notAhead (mark "=")
    return value

/-- Arguments without comma behind them. -/
def someArguments (rules : Rules) : Phrase (List Expression) :=
  let placedFirst : Phrase (List Expression) := do
    let placed ← separated (placedArgument rules)
    let named ← optional do
      mark ","
      namedArguments rules
    return placed ++ named.getD []
  placedFirst <|> namedArguments rules

/-- A generator without brackets. -/
def bareGenerator (rules : Rules) : Phrase Unit := do
  let _ ← rules .expression
  loops rules

def misplacedArgument (rules : Rules) : Phrase (List Expression) :=
  let starBehindKeywords : Phrase (List Expression) := do
    let _ ← someArguments rules
    mark ","
    mark "*"
    raise (.argument .starBehindKeywords)
  let generatorFirst : Phrase (List Expression) := do
    bareGenerator rules
    mark ","
    let arguments : Phrase Unit := do
      let _ ← someArguments rules
    let _ ← optional (arguments <|> bareGenerator rules)
    raise (.argument .bareGenerator)
  let generatorNamed : Phrase (List Expression) := do
    let _ ← name
    mark "="
    bareGenerator rules
    raise .singleEquals
  let generatorLast : Phrase (List Expression) := do
    let _ ← someArguments rules
    mark ","
    bareGenerator rules
    raise (.argument .bareGenerator)
  let placedLast : Phrase (List Expression) := do
    let first ← someArguments rules
    mark ","
    let _ ← someArguments rules
    raise (.argument (if first.any (·.isUnpackedArgument) then .positionalBehindUnpacking
      else .positionalBehindKeyword))
  let loopBehind : Phrase (List Expression) := do
    let first ← someArguments rules
    loops rules
    return first
  firstOf [starBehindKeywords, generatorFirst, generatorNamed, do
    match ← optional loopBehind with
    | some first =>
      if (first.filter fun argument => !argument.isNamedArgument).length ≤ 1 then refuse
      else raise (.argument .bareGenerator)
    | none => generatorLast <|> placedLast]

def arguments (rules : Rules) : Phrase (List Expression) :=
  let found : Phrase (List Expression) := do
    let found ← someArguments rules
    optionalComma
    ahead (mark ")")
    return found
  found <|> whenSearching (misplacedArgument rules)

end DiagnosticMarkers.Report.Parameters.Grammar
