import DiagnosticMarkers.Report.Parameters.Expression
import DiagnosticMarkers.Report.Parameters.Fault

/-!
# Values of expressions

Constants, numbers with a sign, complex numbers, tuples, lists, sets and maps of values have a
value. Keys of maps and items of sets must be hashable: no lists, sets or maps, and no tuples
that hold one.
-/

namespace DiagnosticMarkers.Report.Parameters

/-- A value, as far as it matters for the values it stands in. -/
inductive Value where
  | atom
  | tuple (items : List Value)
  | list
  | set
  | map

mutual

def Value.unhashable? : Value → Option String
  | .atom => none
  | .tuple items => unhashableAmong? items
  | .list => some "list"
  | .set => some "set"
  | .map => some "dict"

def Value.unhashableAmong? : List Value → Option String
  | [] => none
  | item :: items => item.unhashable?.or (unhashableAmong? items)

end

def Value.hashed (value : Value) : Except ValueFault Unit :=
  match value.unhashable? with
  | some kind => .error (.unhashable kind)
  | none => .ok ()

namespace Expression

/-- The number that an expression is: whether it is imaginary. -/
def number? : Expression → Option Bool
  | .constant .real => some false
  | .constant .imaginary => some true
  | _ => none

/-- The number with a sign or none that an expression is. -/
def signedNumber? : Expression → Option Bool
  | .unary operator operand =>
    if operator = "+" || operator = "-" then operand.number? else none
  | other => other.number?

/-- Is the expression a sum or difference of a real and an imaginary number? -/
def isComplex (operator : String) (left right : Expression) : Bool :=
  (operator = "+" || operator = "-") && left.signedNumber? = some false
    && right.number? = some true

mutual

def evaluate : Expression → Except ValueFault Value
  | .constant _ => .ok .atom
  | .tuple items => (evaluateAll items).map .tuple
  | .list items => (evaluateAll items).map fun _ => .list
  | .set items => (evaluateItems items).map fun () => .set
  | .call callee arguments =>
    match callee, arguments with
    | .name callee, [] => if callee = "set".toList then .ok .set else .error .noValue
    | _, _ => .error .noValue
  | .map items => (evaluateEntries items).map fun () => .map
  | .unary operator operand =>
    if (signedNumber? (.unary operator operand)).isSome then .ok .atom else .error .noValue
  | .binary operator left right =>
    if isComplex operator left right then .ok .atom else .error .noValue
  | _ => .error .noValue

def evaluateAll : List Expression → Except ValueFault (List Value)
  | [] => .ok []
  | item :: items => do return (← evaluate item) :: (← evaluateAll items)

/-- The items of a set, each of which must be hashable. -/
def evaluateItems : List Expression → Except ValueFault Unit
  | [] => .ok ()
  | item :: items => do
    (← evaluate item).hashed
    evaluateItems items

/-- The entries of a map. The value of an entry comes before the question whether its key is
hashable. -/
def evaluateEntries : List Expression → Except ValueFault Unit
  | [] => .ok ()
  | .entry key value :: items => do
    let key ← evaluate key
    let _ ← evaluate value
    key.hashed
    evaluateEntries items
  | _ :: _ => .error .unpacked

end

end Expression

end DiagnosticMarkers.Report.Parameters
