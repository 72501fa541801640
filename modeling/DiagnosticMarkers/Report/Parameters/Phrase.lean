import DiagnosticMarkers.Report.Parameters.Expression
import DiagnosticMarkers.Report.Parameters.Token

/-!
# Phrases

A phrase reads tokens from a place on. It gives a result, or it does not fit and another phrase
may be tried at the same place, or it interrupts reading with a fault. What the main phrases
give at a place is kept, so that it is not read twice.

Tokens are read in two passes. The first one looks for a result. If there is none, the second
one looks for the fault, too.
-/

namespace DiagnosticMarkers.Report.Parameters

/-- The phrases whose results are kept. -/
inductive Rule where
  | expression
  /-- An expression, with a star or without, that is given no name. -/
  | element
  | disjunction
  | conjunction
  | inversion
  | bitwiseOr
  | bitwiseXor
  | bitwiseAnd
  | shift
  | sum
  | product
  | factor
  | awaited
  | primary
  | arguments
  /-- The target of a loop. -/
  | target
  /-- The target of a loop without a star. -/
  | plainTarget
  /-- What the last part of a target is a part of. -/
  | targetObject
  /-- An expression that something is assigned to where it cannot be. -/
  | misassignment
deriving DecidableEq, Repr

structure Setting where
  tokens : Tokens
  /-- Is a fault looked for? -/
  searching : Bool
  /-- A fault as it is reported. -/
  reported : Fault → Fault
  /-- Read an expression of a template. -/
  expression : Text → Except Fault Unit

/-- What a rule has given at a place: an expression and the place behind it, or nothing. -/
structure Memory where
  rule : Rule
  result : Option (Expression × Nat)

structure State where
  position : Nat := 0
  /-- The number of tokens that have been looked at. -/
  reached : Nat := 0
  /-- What is kept for each place. -/
  memories : Array (List Memory)

inductive Interruption where
  /-- Reading got to the obstacle behind the tokens. -/
  | obstacle (fault : Fault)
  /-- The tokens are at fault. -/
  | fault (fault : Fault) (reached : Nat)

def Phrase (α : Type) : Type :=
  Setting → State → Except Interruption (Option α × State)

abbrev Rules : Type := Rule → Phrase Expression

namespace Phrase

instance : Monad Phrase where
  pure value := fun _ state => .ok (some value, state)
  bind phrase next := fun setting state =>
    match phrase setting state with
    | .error interruption => .error interruption
    | .ok (none, state) => .ok (none, state)
    | .ok (some value, state) => next value setting state

/-- The phrase that never fits. -/
def refuse {α : Type} : Phrase α :=
  fun _ state => .ok (none, state)

def orElse {α : Type} (phrase : Phrase α) (other : Unit → Phrase α) : Phrase α :=
  fun setting state =>
    match phrase setting state with
    | .ok (none, after) => other () setting { after with position := state.position }
    | result => result

instance {α : Type} : OrElse (Phrase α) := ⟨orElse⟩

def firstOf {α : Type} : List (Phrase α) → Phrase α
  | [] => refuse
  | phrase :: phrases => phrase <|> firstOf phrases

def optional {α : Type} (phrase : Phrase α) : Phrase (Option α) :=
  (do return some (← phrase)) <|> pure none

/-- Does the phrase fit here? Nothing is read. -/
def fits {α : Type} (phrase : Phrase α) : Phrase Bool :=
  fun setting state =>
    match phrase setting state with
    | .error interruption => .error interruption
    | .ok (value, after) => .ok (some value.isSome, { after with position := state.position })

/-- The phrase must fit here, but nothing is read. -/
def ahead {α : Type} (phrase : Phrase α) : Phrase Unit := do
  if ← fits phrase then return () else refuse

/-- The phrase must not fit here. -/
def notAhead {α : Type} (phrase : Phrase α) : Phrase Unit := do
  if ← fits phrase then refuse else return ()

def manyUpTo {α : Type} (phrase : Phrase α) : Nat → Phrase (List α)
  | 0 => pure []
  | most + 1 => do
    match ← optional phrase with
    | none => return []
    | some value => return value :: (← manyUpTo phrase most)

/-- A phrase as often as it fits. It reads a token each time, so it does not fit more often than
there are tokens. -/
def many {α : Type} (phrase : Phrase α) : Phrase (List α) :=
  fun setting state => manyUpTo phrase (setting.tokens.lexemes.size + 1) setting state

def many1 {α : Type} (phrase : Phrase α) : Phrase (List α) := do
  return (← phrase) :: (← many phrase)

/-- A phrase in the second pass only. -/
def whenSearching {α : Type} (phrase : Phrase α) : Phrase α :=
  fun setting state => (if setting.searching then phrase else refuse) setting state

/-- A phrase as in the first pass. -/
def withoutSearching {α : Type} (phrase : Phrase α) : Phrase α :=
  fun setting state => phrase { setting with searching := false } state

def raise {α : Type} (fault : Fault) : Phrase α :=
  fun setting state => .error (.fault (setting.reported fault) state.reached)

/-- Interrupt reading with a fault that is reported already. -/
def raiseReported {α : Type} (fault : Fault) : Phrase α :=
  fun _ state => .error (.fault fault state.reached)

/-- What depends on the setting alone. -/
def setting {α : Type} (read : Setting → α) : Phrase α :=
  fun setting state => .ok (some (read setting), state)

/-- Read the next token if it is accepted. -/
def token {α : Type} (accept : Token → Option α) : Phrase α :=
  fun setting state =>
    match setting.tokens.lexemes[state.position]? with
    | some lexeme =>
      let state := { state with reached := max state.reached (state.position + 1) }
      match accept lexeme.token with
      | some value => .ok (some value, { state with position := state.position + 1 })
      | none => .ok (none, state)
    | none =>
      match setting.tokens.obstacle with
      | some obstacle =>
        .error (.obstacle
          (if obstacle.late then setting.reported obstacle.fault else obstacle.fault))
      | none => .ok (none, state)

def mark (mark : String) : Phrase Unit :=
  token fun token => if token = .mark mark then some () else none

def oneOf (marks : List String) : Phrase String :=
  token fun
    | .mark mark => if marks.contains mark then some mark else none
    | _ => none

def keyword (word : String) : Phrase Unit :=
  token fun token => if token = .keyword word then some () else none

def name : Phrase Text :=
  token fun
    | .name name => some name
    | _ => none

/-- Read phrases with commas between them. -/
def separated {α : Type} (phrase : Phrase α) : Phrase (List α) := do
  let first ← phrase
  let others ← many do
    mark ","
    phrase
  return first :: others

def optionalComma : Phrase Unit := do
  let _ ← optional (mark ",")

def opening (pair : BracketPair) : Phrase Unit :=
  mark (String.singleton pair.opening)

def closing (pair : BracketPair) : Phrase Unit :=
  mark (String.singleton pair.closing)

def bracketed {α : Type} (pair : BracketPair) (phrase : Phrase α) : Phrase α := do
  opening pair
  let found ← phrase
  closing pair
  return found

/-- The number of brackets that are open behind the last token that has been read. -/
def depth : Phrase Nat :=
  fun setting state =>
    match setting.tokens.lexemes[state.position - 1]? with
    | some lexeme => .ok (some lexeme.depth, state)
    | none => .ok (some 0, state)

/-- Keep what a phrase gives as the result of a rule, or give what has been kept. -/
def remembered (rule : Rule) (phrase : Phrase Expression) : Phrase Expression :=
  fun setting state =>
    let memories := state.memories.getD state.position []
    match memories.find? (·.rule = rule) with
    | some ⟨_, some (value, position)⟩ => .ok (some value, { state with position })
    | some ⟨_, none⟩ => .ok (none, state)
    | none =>
      match phrase setting state with
      | .error interruption => .error interruption
      | .ok (value, after) =>
        let memory : Memory := ⟨rule, value.map (·, after.position)⟩
        let kept := after.memories.modify state.position (memory :: ·)
        .ok (value, { after with memories := kept })

end Phrase

end DiagnosticMarkers.Report.Parameters
