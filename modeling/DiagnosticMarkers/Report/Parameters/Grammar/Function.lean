import DiagnosticMarkers.Report.Parameters.Phrase

/-!
# Functions without name

A keyword, parameters, a colon and an expression. Parameters before a slash are given by place
only, parameters behind a star by name only. A parameter without default value does not follow
one with a default value, unless it is given by name only.
-/

namespace DiagnosticMarkers.Report.Parameters.Grammar

open Phrase

/-- What follows a parameter: a comma, or the colon that ends them all. -/
def parameterEnd : Phrase Unit :=
  mark "," <|> ahead (mark ":")

def plainParameter : Phrase Unit := do
  let _ ← name
  parameterEnd

def missingDefault : Phrase Unit := do
  mark "="
  ahead (oneOf [")", ","])
  raise (.parameter .missingDefault)

def defaultValue (rules : Rules) : Phrase Unit :=
  (do
    mark "="
    let _ ← rules .expression) <|> whenSearching missingDefault

def defaultParameter (rules : Rules) : Phrase Unit := do
  let _ ← name
  defaultValue rules
  parameterEnd

/-- A parameter with a default value or without. -/
def anyParameter (rules : Rules) : Phrase Unit := do
  let _ ← name
  let _ ← optional (defaultValue rules)
  parameterEnd

def slash : Phrase Unit := do
  mark "/"
  parameterEnd

/-- Parameters before a slash, none of them with a default value. -/
def plainBeforeSlash : Phrase Unit := do
  let _ ← many1 plainParameter
  slash

/-- Parameters before a slash, some of them with a default value. -/
def defaultsBeforeSlash (rules : Rules) : Phrase Unit := do
  let _ ← many plainParameter
  let _ ← many1 (defaultParameter rules)
  slash

def beforeSlash (rules : Rules) : Phrase Unit :=
  plainBeforeSlash <|> defaultsBeforeSlash rules

def misplacedMapping : Phrase Unit := do
  mark "**"
  let _ ← name
  let withDefault : Phrase Unit := do
    mark "="
    raise (.parameter .defaultOfDoubleStar)
  let followed : Phrase Unit := do
    mark ","
    let named : Phrase Unit := do
      let _ ← name
    let marked : Phrase Unit := do
      let _ ← oneOf ["*", "**", "/"]
    named <|> marked
    raise (.parameter .behindDoubleStar)
  withDefault <|> followed

/-- The parameter behind two stars, which takes all other arguments with a name. -/
def mappingParameter : Phrase Unit :=
  whenSearching misplacedMapping <|> do
    mark "**"
    plainParameter

def misplacedStar (rules : Rules) : Phrase Unit := do
  mark "*"
  let bare : Phrase Unit := do
    mark ":" <|> do
      mark ","
      let _ ← oneOf [":", "**"]
    raise (.parameter .nothingBehindStar)
  let withDefault : Phrase Unit := do
    let _ ← name
    mark "="
    raise (.parameter .defaultOfStar)
  let again : Phrase Unit := do
    plainParameter <|> mark ","
    let _ ← many (anyParameter rules)
    mark "*"
    plainParameter <|> mark ","
    raise (.parameter .secondStar)
  firstOf [bare, withDefault, again]

/-- A star, the parameter that takes all other arguments or a comma, and the parameters behind
it. -/
def starParameters (rules : Rules) : Phrase Unit :=
  let collecting : Phrase Unit := do
    mark "*"
    plainParameter
    let _ ← many (anyParameter rules)
    let _ ← optional mappingParameter
  let bare : Phrase Unit := do
    mark "*"
    mark ","
    let _ ← many1 (anyParameter rules)
    let _ ← optional mappingParameter
  firstOf [whenSearching (misplacedStar rules), collecting, bare, mappingParameter]

def misplacedParameter (rules : Rules) : Phrase Unit :=
  let withoutDefault : Phrase Unit := do
    let _ ← many plainParameter
    defaultsBeforeSlash rules <|> do
      let _ ← many1 (defaultParameter rules)
    plainParameter
    raise (.parameter .noDefaultBehindDefault)
  let parenthesized : Phrase Unit := do
    let _ ← many plainParameter
    bracketed .round do
      let _ ← separated name
      optionalComma
    raise (.parameter .parenthesized)
  let nothingBeforeSlash : Phrase Unit := do
    mark "/"
    mark ","
    raise (.parameter .nothingBeforeSlash)
  let secondSlash : Phrase Unit := do
    beforeSlash rules
    let _ ← many (anyParameter rules)
    mark "/"
    raise (.parameter .secondSlash)
  let slashBehindStar : Phrase Unit := do
    let _ ← optional (beforeSlash rules)
    let _ ← many (anyParameter rules)
    mark "*"
    mark "," <|> plainParameter
    let _ ← many (anyParameter rules)
    mark "/"
    raise (.parameter .slashBehindStar)
  let noComma : Phrase Unit := do
    let _ ← many1 (anyParameter rules)
    mark "/"
    mark "*"
    raise (.parameter .noCommaBeforeStar)
  firstOf [withoutDefault, parenthesized, nothingBeforeSlash, secondSlash, slashBehindStar, noComma]

def parameters (rules : Rules) : Phrase Unit :=
  let others : Phrase Unit := do
    let _ ← many (defaultParameter rules)
    let _ ← optional (starParameters rules)
  let plainFirst : Phrase Unit := do
    plainBeforeSlash
    let _ ← many plainParameter
    others
  let defaultsFirst : Phrase Unit := do
    defaultsBeforeSlash rules
    others
  let plain : Phrase Unit := do
    let _ ← many1 plainParameter
    others
  let defaults : Phrase Unit := do
    let _ ← many1 (defaultParameter rules)
    let _ ← optional (starParameters rules)
  firstOf [plainFirst, defaultsFirst, plain, defaults, starParameters rules]

/-- A function without name. -/
def function (rules : Rules) : Phrase Expression := do
  keyword "lambda"
  let _ ← optional (whenSearching (misplacedParameter rules) <|> parameters rules)
  mark ":"
  return .function (← rules .expression)

end DiagnosticMarkers.Report.Parameters.Grammar
