import DiagnosticMarkers.Report.Parameters.Grammar.Loop

/-!
# Displays

Tuples, lists, sets and maps with their items in brackets, and comprehensions, which build them
in loops.
-/

namespace DiagnosticMarkers.Report.Parameters.Grammar

open Phrase

def misplacedComprehension (rules : Rules) : Phrase Expression :=
  let starredResult : Phrase Expression := do
    firstOf (BracketPair.all.map opening)
    let _ ← starred (rules .expression)
    loops rules
    raise .starredComprehension
  let severalResults : Phrase Expression := do
    opening .square <|> opening .curly
    let _ ← item rules
    mark ","
    let _ ← items rules
    loops rules
    raise .bareTarget
  let comma : Phrase Expression := do
    opening .square <|> opening .curly
    let _ ← item rules
    mark ","
    loops rules
    raise .bareTarget
  firstOf [starredResult, severalResults, comma]

/-- A comprehension: brackets around its result and its loops. -/
def comprehension (rules : Rules) (kind : Comprehension) (pair : BracketPair)
    (result : Phrase Expression) : Phrase Expression :=
  let found : Phrase Expression := bracketed pair do
    let _ ← result
    loops rules
    return .comprehension kind
  found <|> whenSearching (misplacedComprehension rules)

/-- A generator, which gives the results one by one. -/
def generator (rules : Rules) : Phrase Expression :=
  comprehension rules .generator .round (namedExpression rules <|> unnamedExpression rules)

/-- A tuple in brackets. It has no items, or there is a comma behind the first one. -/
def tuple (rules : Rules) : Phrase Expression :=
  let several : Phrase (List Expression) := do
    let first ← item rules
    mark ","
    return first :: (← optional (items rules)).getD []
  do return .tuple ((← bracketed .round (optional several)).getD [])

def misplacedGroup (rules : Rules) : Phrase Expression :=
  let single : Phrase Expression := do
    let _ ← bracketed .round (starred (rules .expression))
    raise .starredGroup
  let double : Phrase Expression := do
    opening .round
    mark "**"
    let _ ← rules .expression
    closing .round
    raise .doubleStarredGroup
  single <|> double

def group (rules : Rules) : Phrase Expression :=
  bracketed .round (yielded rules <|> expression rules) <|> whenSearching (misplacedGroup rules)

def list (rules : Rules) : Phrase Expression := do
  return .list ((← bracketed .square (optional (items rules))).getD [])

def set (rules : Rules) : Phrase Expression := do
  return .set (← bracketed .curly (items rules))

def entry (rules : Rules) : Phrase Expression := do
  let key ← rules .expression
  mark ":"
  return .entry key (← rules .expression)

/-- An entry of a map, or a map whose entries are put into it. -/
def mapItem (rules : Rules) : Phrase Expression :=
  (do
    mark "**"
    return .unpacked (← rules .bitwiseOr)) <|> entry rules

def misplacedValue (rules : Rules) : Phrase Expression :=
  let starred : Phrase Expression := do
    let _ ← rules .expression
    mark ":"
    mark "*"
    let _ ← rules .bitwiseOr
    raise .starredValue
  let missing : Phrase Expression := do
    let _ ← rules .expression
    mark ":"
    ahead (closing .curly <|> mark ",")
    raise .missingValue
  starred <|> missing

def misplacedItem (rules : Rules) : Phrase Expression :=
  let lonely : Phrase Expression := do
    let _ ← rules .expression
    notAhead (mark ":")
    raise .missingColon
  let behindOthers : Phrase Expression := do
    let _ ← separated (mapItem rules)
    mark ","
    lonely <|> misplacedValue rules
  behindOthers <|> misplacedValue rules

def map (rules : Rules) : Phrase Expression :=
  let mapItems : Phrase (List Expression) := do
    let found ← separated (mapItem rules)
    optionalComma
    return found
  let found : Phrase Expression := do
    return .map ((← bracketed .curly (optional mapItems)).getD [])
  found <|> bracketed .curly (misplacedItem rules)

/-- The fault of the comprehension of a map. -/
def misplacedUnpacking (rules : Rules) : Phrase Expression := do
  opening .curly
  mark "**"
  let _ ← rules .bitwiseOr
  loops rules
  closing .curly
  raise .unpackingComprehension

def mapComprehension (rules : Rules) : Phrase Expression :=
  let found : Phrase Expression := bracketed .curly do
    let _ ← entry rules
    loops rules
    return .comprehension .map
  found <|> whenSearching (misplacedUnpacking rules)

/-- What begins with a round bracket. -/
def roundDisplay (rules : Rules) : Phrase Expression :=
  firstOf [tuple rules, group rules, generator rules]

/-- What begins with a square bracket. -/
def squareDisplay (rules : Rules) : Phrase Expression :=
  list rules <|> comprehension rules .list .square (expression rules)

/-- What begins with a curly bracket. -/
def curlyDisplay (rules : Rules) : Phrase Expression :=
  firstOf [map rules, set rules, mapComprehension rules,
    comprehension rules .set .curly (expression rules)]

end DiagnosticMarkers.Report.Parameters.Grammar
