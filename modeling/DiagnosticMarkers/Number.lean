import DiagnosticMarkers.Text.Basic

/-!
# Numbers

Every script with decimal digits has them in a row of ten consecutive code points, so a
digit is found by the code point of its zero. A digit run is read in base ten, whatever
scripts its digits come from, but only up to a number of digits. Leading zeros count. Numbers are
written only up to as many digits.

A decimal fraction in a settings file or a record stands for the nearest number with a
mantissa of 53 bits and an exponent that fits in 64 bits altogether. Rounding is done exactly on
natural numbers; a tie goes to the even mantissa.
-/

namespace DiagnosticMarkers.Text

def digitZeros : List Nat := [
  0x30, 0x660, 0x6F0, 0x7C0, 0x966, 0x9E6, 0xA66, 0xAE6, 0xB66, 0xBE6,
  0xC66, 0xCE6, 0xD66, 0xDE6, 0xE50, 0xED0, 0xF20, 0x1040, 0x1090, 0x17E0,
  0x1810, 0x1946, 0x19D0, 0x1A80, 0x1A90, 0x1B50, 0x1BB0, 0x1C40, 0x1C50, 0xA620,
  0xA8D0, 0xA900, 0xA9D0, 0xA9F0, 0xAA50, 0xABF0, 0xFF10, 0x104A0, 0x10D30, 0x11066,
  0x110F0, 0x11136, 0x111D0, 0x112F0, 0x11450, 0x114D0, 0x11650, 0x116C0, 0x11730, 0x118E0,
  0x11950, 0x11C50, 0x11D50, 0x11DA0, 0x16A60, 0x16AC0, 0x16B50, 0x1D7CE, 0x1D7D8, 0x1D7E2,
  0x1D7EC, 0x1D7F6, 0x1E140, 0x1E2F0, 0x1E950, 0x1FBF0]

/-- The value of a code point among the rows of digits that start at the given zeros. -/
def digitAmong : List Nat → Nat → Option Nat
  | [], _ => none
  | first :: rest, n =>
    if n < first then none
    else if n < first + 10 then some (n - first)
    else digitAmong rest n

def digitValue (c : Char) : Option Nat :=
  digitAmong digitZeros c.toNat

def isDigit (c : Char) : Bool :=
  (digitValue c).isSome

/-- The value of a run of decimal digits. Characters that are no digits count as zeros. -/
def decimalValue (digits : Text) : Nat :=
  digits.foldl (fun value c => 10 * value + (digitValue c).getD 0) 0

end DiagnosticMarkers.Text

namespace DiagnosticMarkers

/-! ## Numerals with too many digits -/

/-- The most digits that are converted. -/
def maxDigits : Nat := 4300

structure OverlongNumber where
  digits : Nat
deriving DecidableEq, Repr

def OverlongNumber.message (fault : OverlongNumber) : String :=
  s!"Exceeds the limit ({maxDigits} digits) for integer string conversion: value has " ++
    s!"{fault.digits} digits; use sys.set_int_max_str_digits() to increase the limit"

/-- The value of a run of digits that is not overlong. -/
def numberOf (digits : Text) : Except OverlongNumber Nat :=
  if digits.length ≤ maxDigits then .ok (Text.decimalValue digits)
  else .error ⟨digits.length⟩

/-- Can the number be written? The sign does not count. -/
def isWritable (number : Int) : Bool :=
  (Text.ofNat number.natAbs).length ≤ maxDigits

def unwritableMessage : Text :=
  ("Exceeds the limit (".toList ++ Text.ofNat maxDigits
    ++ " digits) for integer string conversion; ".toList
    ++ "use sys.set_int_max_str_digits() to increase the limit".toList)

/-! ## Binary floating-point numbers -/

/-- The quotient rounded to the nearest natural number, a tie to the even one. -/
def roundDiv (num den : Nat) : Nat :=
  let quotient := num / den
  let twice := 2 * (num % den)
  if twice < den then quotient
  else if twice = den then quotient + quotient % 2
  else quotient + 1

/-- A number of 64 bits: `mantissa * 2 ^ exponent` with a sign, an infinity, or no number. -/
inductive Binary64 where
  | finite (negative : Bool) (mantissa : Nat) (exponent : Int)
  | infinite (negative : Bool)
  | nan
deriving DecidableEq, Repr

namespace Binary64

def belowPower (num den : Nat) (power : Int) : Bool :=
  num * Nat.pow 2 (-power).toNat < den * Nat.pow 2 power.toNat

/-- The exponent of the unit in the last place of a positive ratio: 53 bits, or fewer where
the numbers are smallest. -/
def unitExponent (num den : Nat) : Int :=
  let power := (num.log2 : Int) - den.log2
  max (if belowPower num den power then power - 53 else power - 52) (-1074)

/-- The number nearest to a positive ratio. -/
def ofRatio (negative : Bool) (num den : Nat) : Binary64 :=
  let exponent := unitExponent num den
  let mantissa := roundDiv (num * Nat.pow 2 (-exponent).toNat) (den * Nat.pow 2 exponent.toNat)
  if belowPower mantissa 1 (1024 - exponent) then finite negative mantissa exponent
  else infinite negative

/-- The number nearest to `digits * 10 ^ exponent`. Magnitudes far outside of the range are
told by their number of digits. -/
def ofDecimal (negative : Bool) (digits : Nat) (exponent : Int) : Binary64 :=
  let magnitude := (Nat.toDigits 10 digits).length + exponent
  if digits = 0 || magnitude < -400 then finite negative 0 0
  else if 400 < magnitude then infinite negative
  else ofRatio negative (digits * Nat.pow 10 exponent.toNat) (Nat.pow 10 (-exponent).toNat)

def toInt? : Binary64 → Option Int
  | finite negative mantissa exponent =>
    let unit := Nat.pow 2 (-exponent).toNat
    if mantissa % unit = 0 then
      let size := mantissa / unit * Nat.pow 2 exponent.toNat
      some (if negative then -(size : Int) else size)
    else none
  | _ => none

end Binary64

end DiagnosticMarkers
