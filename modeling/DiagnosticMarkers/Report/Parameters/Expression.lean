import DiagnosticMarkers.Text.Basic

/-!
# Expressions

What the parameters of an action may write. Only some expressions have a value of their own;
the others are told apart because faults name them.
-/

namespace DiagnosticMarkers.Report.Parameters

inductive Constant where
  | yes
  | no
  | nothing
  | ellipsis
  | real
  | imaginary
  | text
deriving DecidableEq, Repr

inductive Comprehension where
  | generator
  | list
  | set
  | map
deriving DecidableEq, Repr

inductive Expression where
  | name (name : Text)
  | constant (constant : Constant)
  /-- A text that holds expressions. -/
  | template
  | tuple (items : List Expression)
  | list (items : List Expression)
  | set (items : List Expression)
  /-- A map. Its items are `entry` or `unpacked`. -/
  | map (items : List Expression)
  | entry (key value : Expression)
  /-- A map whose entries are put into another one. -/
  | unpacked (value : Expression)
  | comprehension (kind : Comprehension)
  | starred (value : Expression)
  | member (object : Expression) (name : Text)
  | subscript (object index : Expression)
  | slice
  /-- A call. Arguments by name are `argument`. -/
  | call (callee : Expression) (arguments : List Expression)
  /-- An argument by name, or the arguments of a map without name. -/
  | argument (name : Option Text) (value : Expression)
  | unary (operator : String) (operand : Expression)
  | binary (operator : String) (left right : Expression)
  | boolean (operator : String) (operands : List Expression)
  | comparison (first : Expression) (operators : List String) (others : List Expression)
  | conditional (condition positive negative : Expression)
  | named (name : Text) (value : Expression)
  | function (body : Expression)
  | yield (value : Option Expression)
  | await (value : Expression)

namespace Expression

def description : Expression → String
  | .name _ => "name"
  | .constant .yes => "True"
  | .constant .no => "False"
  | .constant .nothing => "None"
  | .constant .ellipsis => "ellipsis"
  | .constant _ => "literal"
  | .template => "f-string expression"
  | .tuple _ => "tuple"
  | .list _ => "list"
  | .set _ => "set display"
  | .map .. => "dict literal"
  | .comprehension .generator => "generator expression"
  | .comprehension .list => "list comprehension"
  | .comprehension .set => "set comprehension"
  | .comprehension .map => "dict comprehension"
  | .starred _ => "starred"
  | .member .. => "attribute"
  | .subscript .. => "subscript"
  | .call .. => "function call"
  | .comparison .. => "comparison"
  | .conditional .. => "conditional expression"
  | .named .. => "named expression"
  | .function _ => "lambda"
  | .yield _ => "yield expression"
  | .await _ => "await expression"
  | .unary .. | .binary .. | .boolean .. | .slice | .argument .. | .entry .. | .unpacked _ =>
    "expression"

def name? : Expression → Option Text
  | .name found => some found
  | _ => none

mutual

/-- The part of a target of a loop that cannot be assigned to. The word "in" that belongs to
the loop may have been read as part of a comparison. -/
def invalidTarget? : Expression → Option Expression
  | .list items | .tuple items => invalidTargetAmong? items
  | .starred value => invalidTarget? value
  | .comparison first operators _ =>
    if operators.head? = some "in" then invalidTarget? first else none
  | .name _ | .subscript .. | .member .. => none
  | other => some other

def invalidTargetAmong? : List Expression → Option Expression
  | [] => none
  | item :: items => (invalidTarget? item).or (invalidTargetAmong? items)

end

def isNamedArgument : Expression → Bool
  | .argument .. => true
  | _ => false

/-- Does the argument unpack a map? -/
def isUnpackedArgument : Expression → Bool
  | .argument none _ => true
  | _ => false

end Expression

end DiagnosticMarkers.Report.Parameters
