import DiagnosticMarkers.Text.Quoted

/-!
# Reading UTF-8

Octets are read one at a time. Between two characters nothing is pending; inside a character
the octets read so far are, with the number still missing and the bounds of the next one.
The bounds of the second octet exclude overlong forms, surrogates and numbers above the last
code point, so a fault is always found at the first octet that cannot continue.
-/

namespace DiagnosticMarkers.Utf8

inductive Reason where
  | invalidStart
  | invalidContinuation
  | unexpectedEnd
deriving DecidableEq

/-- Octets that cannot be read: where they begin, the first of them, how many belong to the
faulty character, and what is wrong. -/
structure Fault where
  position : Nat
  octet : UInt8
  count : Nat
  reason : Reason

/-- A character of which some octets are still missing. -/
structure Pending where
  start : Nat
  octet : UInt8
  /-- The octets read so far. -/
  count : Nat
  missing : Nat
  /-- The bits read so far. -/
  value : Nat
  /-- The least and the greatest octet that may come next. -/
  low : Nat
  high : Nat

inductive Lead where
  | char (c : Char)
  | pending (p : Pending)
  | invalid

def lead (position : Nat) (octet : UInt8) : Lead :=
  let n := octet.toNat
  if n < 0x80 then .char (Char.ofNat n)
  else if n < 0xC2 then .invalid
  else if n < 0xE0 then .pending ⟨position, octet, 1, 1, n - 0xC0, 0x80, 0xBF⟩
  else if n < 0xF0 then
    .pending ⟨position, octet, 1, 2, n - 0xE0,
      if n = 0xE0 then 0xA0 else 0x80, if n = 0xED then 0x9F else 0xBF⟩
  else if n < 0xF5 then
    .pending ⟨position, octet, 1, 3, n - 0xF0,
      if n = 0xF0 then 0x90 else 0x80, if n = 0xF4 then 0x8F else 0xBF⟩
  else .invalid

def Pending.fault (p : Pending) (reason : Reason) : Fault :=
  ⟨p.start, p.octet, p.count, reason⟩

/-- Read octets from a position on, with the character that is pending there. -/
def decodeFrom : Nat → Option Pending → List UInt8 → Except Fault Text
  | _, none, [] => .ok []
  | _, some p, [] => .error (p.fault .unexpectedEnd)
  | position, none, octet :: rest =>
    match lead position octet with
    | .char c => (decodeFrom (position + 1) none rest).map (c :: ·)
    | .pending p => decodeFrom (position + 1) (some p) rest
    | .invalid => .error ⟨position, octet, 1, .invalidStart⟩
  | position, some p, octet :: rest =>
    let n := octet.toNat
    if p.low ≤ n && n ≤ p.high then
      let value := p.value * 64 + (n - 0x80)
      if p.missing = 1 then
        (decodeFrom (position + 1) none rest).map (Char.ofNat value :: ·)
      else
        let next : Pending :=
          ⟨p.start, p.octet, p.count + 1, p.missing - 1, value, 0x80, 0xBF⟩
        decodeFrom (position + 1) (some next) rest
    else .error (p.fault .invalidContinuation)

/-- The text that the octets stand for. A byte order mark is a character like any other. -/
def decode (octets : List UInt8) : Except Fault Text :=
  decodeFrom 0 none octets

def Reason.message : Reason → String
  | .invalidStart => "invalid start byte"
  | .invalidContinuation => "invalid continuation byte"
  | .unexpectedEnd => "unexpected end of data"

/-- The words for a fault. Positions count octets from zero. -/
def Fault.message (fault : Fault) : String :=
  let octet := String.ofList (Text.hexDigits 2 fault.octet.toNat)
  let first := fault.position
  let last := fault.position + fault.count - 1
  let place :=
    if fault.count = 1 then s!"byte 0x{octet} in position {first}"
    else s!"bytes in position {first}-{last}"
  let reason := fault.reason.message
  s!"'utf-8' codec can't decode {place}: {reason}"

end DiagnosticMarkers.Utf8
