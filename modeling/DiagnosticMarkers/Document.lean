import DiagnosticMarkers.Number

/-!
# Documents

A document gives out its lines by number and may have a lock. A host document keeps its own
state, so the same request may be answered differently later. Reading leaves a trace of the
requests in order, with the moments at which the lock is taken and given back.
-/

namespace DiagnosticMarkers

inductive LineError where
  /-- The document has only so many lines. -/
  | outside (number : Int) (count : Nat)
  /-- The request fails with an error of another kind, such as one of the host's own. -/
  | refused (kind reason : Text)
deriving DecidableEq, Repr

def LineError.message : LineError → Text
  | outside number count =>
    "line ".toList ++ Text.ofInt number ++ " is outside the document (1..".toList
      ++ Text.ofNat count ++ ")".toList
  | refused _ reason => reason

inductive Access where
  | lock
  | read (number : Int)
  | unlock
deriving DecidableEq, Repr

/-- A document with states in `σ`. -/
structure Document (σ : Type) where
  path : Option Text
  hasLock : Bool
  /-- Give out a line and go to the next state. -/
  line : Int → σ → Except LineError Text × σ

/-- The outcome of work on a document: a result, the state after it, and the trace. -/
structure Visit (σ α : Type) where
  result : α
  state : σ
  accesses : List Access

namespace Document

variable {σ α : Type}

/-- The trace of accesses between taking the lock and giving it back, if there is a lock. -/
def guarded (document : Document σ) (accesses : List Access) : List Access :=
  if document.hasLock then .lock :: accesses ++ [.unlock] else accesses

/-- Do the work under the lock. The work is total, so the lock is always given back. -/
def synchronized (document : Document σ) (work : σ → Visit σ α) (state : σ) : Visit σ α :=
  { work state with accesses := document.guarded (work state).accesses }

/-- Read lines in order up to the first that is not given out. -/
def readLines (document : Document σ) : List Int → σ → Visit σ (Except LineError (List Text))
  | [], state => ⟨.ok [], state, []⟩
  | number :: numbers, state =>
    match document.line number state with
    | (.error fault, next) => ⟨.error fault, next, [.read number]⟩
    | (.ok text, next) =>
      let rest := document.readLines numbers next
      ⟨rest.result.map (text :: ·), rest.state, .read number :: rest.accesses⟩

end Document

structure TextBuffer where
  lines : List Text
deriving DecidableEq, Repr

namespace TextBuffer

/-- Lines end at newlines; carriage returns in front of the end are dropped. There is one
line more than newlines. -/
def ofText (text : Text) : TextBuffer :=
  ⟨(Text.cutAt '\n' text).map (Text.dropEndWhile (· == '\r'))⟩

def lineCount (buffer : TextBuffer) : Nat :=
  buffer.lines.length

/-- How a request for a line that is not in the buffer fails. The words name the number, so one
that cannot be written fails in another way. -/
def refusal (buffer : TextBuffer) (number : Int) : LineError :=
  if isWritable number then .outside number buffer.lineCount
  else .refused "ValueError".toList unwritableMessage

/-- The line with a number, counted from one. -/
def line (buffer : TextBuffer) (number : Int) : Except LineError Text :=
  if number < 1 then .error (buffer.refusal number)
  else
    match buffer.lines[(number - 1).toNat]? with
    | some text => .ok text
    | none => .error (buffer.refusal number)

inductive Operation where
  /-- Replace the whole text. -/
  | set (text : Text)
  | line (number : Int)
  | lineCount
deriving DecidableEq, Repr

inductive Answer where
  | replaced
  | line (given : Except LineError Text)
  | lineCount (count : Nat)

def perform (buffer : TextBuffer) : Operation → Answer × TextBuffer
  | .set text => (.replaced, ofText text)
  | .line number => (.line (buffer.line number), buffer)
  | .lineCount => (.lineCount buffer.lineCount, buffer)

def performAll (buffer : TextBuffer) : List Operation → List Answer × TextBuffer
  | [] => ([], buffer)
  | operation :: operations =>
    let (answer, next) := buffer.perform operation
    let (answers, last) := next.performAll operations
    (answer :: answers, last)

/-- A document on a text buffer, with a lock. Reading leaves the buffer as it is. -/
def document (path : Option Text) : Document TextBuffer where
  path := path
  hasLock := true
  line number buffer := (buffer.line number, buffer)

end TextBuffer

end DiagnosticMarkers
