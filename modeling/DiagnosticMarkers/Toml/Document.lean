import DiagnosticMarkers.Toml.Number

/-!
# TOML documents

A key is a row of names with points between them. Arrays may stretch over lines and end with
a comma; inline tables may not. Values are read by calls that stand as deep in each other as the
values do, so the call stack bounds how deep that may be.

A document is a row of lines: entries, headers of tables, headers of tables in an array, and
comments. No table is declared twice, and what is written out as a value is not added to.
-/

namespace DiagnosticMarkers.Toml

/-- The names on the way to a value. -/
abbrev Key := List Text

/-- Characters of a name without quotes. -/
def isBare (c : Char) : Bool :=
  c.isAlphanum || c == '-' || c == '_'

def keyPart : Reader Text := do
  let name ← takeWhile isBare
  if name.isEmpty then
    if ← accept "\"" then basic
    else if ← accept "'" then literal
    else malformed
  else return name

/-- The names after the first one. Each takes a point at least, so there are no more of them
than characters. -/
def keyRest : Nat → Reader Key
  | 0 => return []
  | names + 1 => do
    skipBlanks
    if ← accept "." then
      skipBlanks
      let name ← keyPart
      return name :: (← keyRest names)
    else return []

def key : Reader Key := do
  let first ← keyPart
  return first :: (← keyRest (← get).length)

/-- Change the table to which the names lead. Missing tables are made on the way. Where
`intoArrays` is set, an array stands for its last table. -/
def changeAt (intoArrays : Bool) (change : Table → Except Fault Table) :
    Key → Table → Except Fault Table
  | [], table => change table
  | name :: names, table => do
    match table.find? name with
    | none => return table.insert name (.table (← changeAt intoArrays change names []))
    | some (.table inner) =>
      return table.insert name (.table (← changeAt intoArrays change names inner))
    | some (.array items) =>
      match intoArrays, items.getLast? with
      | true, some (.table inner) =>
        let changed ← changeAt intoArrays change names inner
        return table.insert name (.array (items.dropLast ++ [.table changed]))
      | _, _ => throw .malformed
    | some _ => throw .malformed

def addNew (name : Text) (value : Value) (table : Table) : Except Fault Table :=
  match table.find? name with
  | none => .ok (table.insert name value)
  | some _ => .error .malformed

def splitKey (key : Key) : Key × Text :=
  (key.dropLast, key.getLast?.getD [])

/-- Tables and arrays that are written out cannot be added to. -/
def isClosed : Value → Bool
  | .array _ | .table _ => true
  | _ => false

/-- Does one of the closed keys lead to the key? -/
def isWithin (closed : List Key) (key : Key) : Bool :=
  closed.any fun outer => outer.isPrefixOf key

/-- The remaining items of an array, up to its end. Each but the last takes a comma, so there
are no more of them than characters. -/
def arrayItems (item : Reader Value) : Nat → Reader (List Value)
  | 0 => malformed
  | items + 1 => do
    if ← accept "]" then return []
    let value ← item
    skipSpace
    if ← accept "]" then return [value]
    expect ","
    skipSpace
    return value :: (← arrayItems item items)

/-- The remaining entries of an inline table, up to its end, after those in `table`. Each takes
an equals sign, so there are no more of them than characters. -/
def inlineEntries (item : Reader Value) : Nat → List Key → Table → Reader Table
  | 0, _, _ => malformed
  | entries + 1, closed, table => do
    let key ← key
    expect "="
    skipBlanks
    let value ← item
    if isWithin closed key then malformed
    let (names, name) := splitKey key
    let table ← changeAt false (addNew name value) names table
    skipBlanks
    if ← accept "\x7d" then return table
    expect ","
    skipBlanks
    inlineEntries item entries (if isClosed value then key :: closed else closed) table

/-- What the call stack holds while values are read. -/
structure Stack where
  /-- The calls that still fit where the value of an entry is read. -/
  calls : Nat
  /-- The calls that the value in front of a text takes, without those for values in it. -/
  needs : Text → Nat

/-- The room that a program usually leaves. -/
def Stack.usual : Stack :=
  ⟨960, fun _ => 4⟩

def tooDeep {α : Type} : Reader α :=
  throw .tooDeep

/-- A value where `left` calls fit. The items of an array and the values of an inline table are
read by the given readers. -/
def valueWith (needs : Text → Nat) (left : Nat) (item inTable : Reader Value) : Reader Value := do
  if left < needs (← get) then tooDeep
  match ← string? with
  | some text => return .text text
  | none =>
    if ← accept "true" then return .boolean true
    else if ← accept "false" then return .boolean false
    else if ← accept "[" then
      skipSpace
      return .array (← arrayItems item ((← get).length + 1))
    else if ← accept "\x7b" then
      skipBlanks
      if ← accept "\x7d" then return .table []
      else return .table (← inlineEntries inTable ((← get).length + 1) [] [])
    else scalar

/-- A value where so many calls fit. An item of an array is read two calls further, a value of
an inline table three. -/
def value (needs : Text → Nat) : Nat → Reader Value
  | left + 3 => valueWith needs (left + 3) (value needs (left + 1)) (value needs left)
  | 2 => valueWith needs 2 (value needs 0) tooDeep
  | left => valueWith needs left tooDeep tooDeep

def entry (stack : Stack) : Reader (Key × Value) := do
  let key ← key
  expect "="
  skipBlanks
  return (key, ← value stack.needs stack.calls)

/-! ## Documents -/

structure State where
  table : Table := []
  /-- The table that the last header named. -/
  header : Key := []
  /-- Keys of values that cannot be added to. -/
  closed : List Key := []
  /-- Keys of tables that cannot be declared again. -/
  declared : List Key := []
  /-- Tables made by the keys of entries. They count as declared from the next header on. -/
  pending : List Key := []

namespace State

/-- Begin with a header: the tables made so far cannot be declared any more. -/
def settle (state : State) : State :=
  { state with declared := state.pending ++ state.declared, pending := [] }

/-- Forget what is known of a key and of all keys within it. -/
def forget (state : State) (key : Key) : State :=
  { state with
    closed := state.closed.filter fun k => !key.isPrefixOf k
    declared := state.declared.filter fun k => !key.isPrefixOf k }

def declareTable (state : State) (key : Key) : Except Fault State := do
  if state.declared.contains key || isWithin state.closed key then throw .malformed
  let table ← changeAt true (fun table => .ok table) key state.table
  return { state with table, header := key, declared := key :: state.declared }

def appendTable (name : Text) (table : Table) : Except Fault Table :=
  match table.find? name with
  | none => .ok (table.insert name (.array [.table []]))
  | some (.array items) => .ok (table.insert name (.array (items ++ [.table []])))
  | some _ => .error .malformed

/-- Declare one more table of an array. -/
def declareItem (state : State) (key : Key) : Except Fault State := do
  if isWithin state.closed key then throw .malformed
  let state := state.forget key
  let (names, name) := splitKey key
  let table ← changeAt true (appendTable name) names state.table
  return { state with table, header := key, declared := key :: state.declared }

/-- The tables that the key of an entry passes through, without the last name. -/
def passed (header key : Key) : List Key :=
  (List.range (key.length - 1)).map fun count => header ++ key.take (count + 1)

def addEntry (state : State) (key : Key) (value : Value) : Except Fault State := do
  let (names, name) := splitKey key
  let passed := passed state.header key
  if passed.any state.declared.contains then throw .malformed
  if isWithin state.closed (state.header ++ names) then throw .malformed
  let table ← changeAt true (addNew name value) (state.header ++ names) state.table
  let closed := if isClosed value then (state.header ++ key) :: state.closed else state.closed
  return { state with table, closed, pending := passed ++ state.pending }

end State

/-- One line, from its first character that is no blank on. -/
def statement (stack : Stack) (state : State) : Reader State := do
  match (← get).head? with
  | none => return state
  | some c =>
    if c == '#' || c == '\n' then return state
    else if ← accept "[[" then
      skipBlanks
      let key ← key
      let state ← state.settle.declareItem key
      expect "]]"
      return state
    else if ← accept "[" then
      skipBlanks
      let key ← key
      let state ← state.settle.declareTable key
      expect "]"
      return state
    else
      let (key, value) ← entry stack
      state.addEntry key value

/-- The remaining lines. Each takes a character, so there are no more of them than
characters. -/
def statements (stack : Stack) : Nat → State → Reader State
  | 0, state => return state
  | lines + 1, state => do
    skipBlanks
    let state ← statement stack state
    skipBlanks
    skipComment
    if ← accept "\n" then statements stack lines state
    else if (← get).isEmpty then return state
    else malformed

/-- A carriage return in front of a newline is no part of the text. -/
def joinLineEnds : Text → Text
  | [] => []
  | '\r' :: '\n' :: rest => '\n' :: joinLineEnds rest
  | c :: rest => c :: joinLineEnds rest

def parse (stack : Stack) (text : Text) : Except Fault Table := do
  let text := joinLineEnds text
  let (state, _) ← (statements stack (text.length + 1) {}).run text
  return state.table

end DiagnosticMarkers.Toml
