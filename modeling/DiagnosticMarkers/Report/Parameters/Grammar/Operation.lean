import DiagnosticMarkers.Report.Parameters.Grammar.Call
import DiagnosticMarkers.Report.Parameters.Grammar.Display
import DiagnosticMarkers.Report.Parameters.Phrase
import DiagnosticMarkers.Report.Parameters.Template

/-!
# Operations

Operands are names, constants, numbers, quoted texts and displays, with their members, elements and
calls. Operators stand between them, from the one that binds most to the one that binds least.
-/

namespace DiagnosticMarkers.Report.Parameters.Grammar

open Phrase Text

/-! ## Operands -/

/-- A number. Only its number of digits may keep it from being read. -/
def number : Phrase Expression := do
  match ← token fun | .number number => some number | _ => none with
  | .imaginary => return .constant .imaginary
  | .decimal digits =>
    if maxDigits < digits then raise (.overlong ⟨digits⟩) else return .constant .real
  | .based | .real => return .constant .real

/-- Check the content of a quoted text. -/
def checkQuotation (setting : Setting) (quotation : Quotation) : Except Fault Unit :=
  if quotation.template then .ok ()
  else
    let escaped := !quotation.raw && quotation.content.contains '\\'
    if quotation.octets then
      if quotation.content.any fun c => 0x80 ≤ c.toNat then .error (setting.reported .wideOctets)
      else if escaped then
        (checkOctetEscapes 0 quotation.content).mapError setting.reported
      else .ok ()
    else if escaped then
      (checkEscapes 0 (asciiForm quotation.content)).mapError setting.reported
    else .ok ()

/-- Read the expressions of a quoted text that is a template. -/
def readTemplate (setting : Setting) (quotation : Quotation) : Except Fault Unit :=
  if quotation.template then
    let reader : TemplateReader :=
      { raw := quotation.raw, reported := setting.reported, expression := setting.expression }
    reader.read quotation.content
  else .ok ()

/-- Check quoted texts one after the other. They are either all octets or none of them. -/
def checkQuotations (setting : Setting) (octets : Bool) : List Quotation → Except Fault Unit
  | [] => .ok ()
  | quotation :: others => do
    checkQuotation setting quotation
    if quotation.octets != octets then throw (setting.reported .mixedTexts)
    readTemplate setting quotation
    checkQuotations setting octets others

/-- Quoted texts, which are one text. -/
def quotations : Phrase Expression := do
  let found ← many1 (token fun | .quoted quotation => some quotation | _ => none)
  let octets := (found.head?.map (·.octets)).getD false
  match ← setting fun setting => checkQuotations setting octets found with
  | .error fault => raiseReported fault
  | .ok () =>
    return if found.any (·.template) then .template else .constant .text

def atom (rules : Rules) : Phrase Expression :=
  let constant (phrase : Phrase Unit) (constant : Constant) : Phrase Expression := do
    phrase
    return .constant constant
  let named : Phrase Expression := do
    return .name (← name)
  firstOf [named, constant (keyword "True") .yes, constant (keyword "False") .no,
    constant (keyword "None") .nothing, quotations, number, roundDisplay rules,
    squareDisplay rules, curlyDisplay rules, constant (mark "...") .ellipsis]

def slice (rules : Rules) : Phrase Expression :=
  let bounds : Phrase Expression := do
    let _ ← optional (rules .expression)
    mark ":"
    let _ ← optional (rules .expression)
    let _ ← optional do
      mark ":"
      optional (rules .expression)
    return .slice
  bounds <|> expression rules

/-- What stands in the brackets behind an operand. -/
def subscripts (rules : Rules) : Phrase Expression :=
  let single : Phrase Expression := do
    let found ← slice rules
    notAhead (mark ",")
    return found
  let several : Phrase Expression := do
    let found ← separated (slice rules <|> starred (rules .expression))
    optionalComma
    return .tuple found
  single <|> several

def part (rules : Rules) : Phrase (Expression → Expression) :=
  let member : Phrase (Expression → Expression) := do
    mark "."
    let found ← name
    return fun object => .member object found
  let callOfGenerator : Phrase (Expression → Expression) := do
    let argument ← generator rules
    return fun callee => .call callee [argument]
  let call : Phrase (Expression → Expression) := do
    match ← bracketed .round (optional (rules .arguments)) with
    | some (.tuple arguments) => return fun callee => .call callee arguments
    | _ => return fun callee => .call callee []
  let element : Phrase (Expression → Expression) := do
    let index ← bracketed .square (subscripts rules)
    return fun object => .subscript object index
  firstOf [member, callOfGenerator, call, element]

def primary (rules : Rules) : Phrase Expression := do
  let first ← atom rules
  let parts ← many (part rules)
  return parts.foldl (fun object part => part object) first

/-! ## Operators -/

def awaited (rules : Rules) : Phrase Expression :=
  (do
    keyword "await"
    return .await (← rules .primary)) <|> rules .primary

/-- A power. The operator binds more than a sign in front of it, less than one behind it. -/
def power (rules : Rules) : Phrase Expression := do
  let base ← rules .awaited
  let exponent ← optional do
    mark "**"
    rules .factor
  match exponent with
  | some exponent => return .binary "**" base exponent
  | none => return base

def factor (rules : Rules) : Phrase Expression :=
  (do
    let sign ← oneOf ["+", "-", "~"]
    return .unary sign (← rules .factor)) <|> power rules

/-- Operands with operators between them, of which the first binds most. -/
def leftward (operators : List String) (operand : Phrase Expression) : Phrase Expression := do
  let first ← operand
  let others ← many do
    let operator ← oneOf operators
    return (operator, ← operand)
  return others.foldl (fun left (operator, right) => .binary operator left right) first

def comparisonOperator : Phrase String :=
  let words (words : List String) (operator : String) : Phrase String := do
    words.forM keyword
    return operator
  firstOf [oneOf ["==", "!=", "<=", "<", ">=", ">"], words ["not", "in"] "not in",
    words ["in"] "in", words ["is", "not"] "is not", words ["is"] "is"]

/-- Comparisons, of which each operand but the first and the last one has two. -/
def comparison (rules : Rules) : Phrase Expression := do
  let first ← rules .bitwiseOr
  let others ← many do
    let operator ← comparisonOperator
    return (operator, ← rules .bitwiseOr)
  if others.isEmpty then return first
  else return .comparison first (others.map (·.1)) (others.map (·.2))

def inversion (rules : Rules) : Phrase Expression :=
  (do
    keyword "not"
    return .unary "not" (← rules .inversion)) <|> comparison rules

/-- Operands with a word between them. -/
def joined (word : String) (operand : Phrase Expression) : Phrase Expression := do
  let first ← operand
  let others ← many do
    keyword word
    operand
  if others.isEmpty then return first else return .boolean word (first :: others)

end DiagnosticMarkers.Report.Parameters.Grammar
