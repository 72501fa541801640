import DiagnosticMarkers.Toml.Reader
import DiagnosticMarkers.Value

/-!
# TOML numbers and dates

Digits may be set apart by single underscores. Integers are written in base ten with a sign
or in base sixteen, eight or two without one; a fraction or an exponent makes a number a
float. Dates and times are recognised and their days are checked.
-/

namespace DiagnosticMarkers.Toml

/-- Digits in the class with single underscores between them: the digits and the rest. -/
def digitRun (cls : Char → Bool) : Text → Text × Text
  | '_' :: c :: rest =>
    if cls c then (fun (digits, rest) => (c :: digits, rest)) (digitRun cls rest)
    else ([], '_' :: c :: rest)
  | c :: rest =>
    if cls c then (fun (digits, rest) => (c :: digits, rest)) (digitRun cls rest)
    else ([], c :: rest)
  | [] => ([], [])

def digits? (cls : Char → Bool) : Text → Option (Text × Text)
  | c :: rest =>
    if cls c then
      let (digits, rest) := digitRun cls rest
      some (c :: digits, rest)
    else none
  | [] => none

def valueIn (base : Nat) (digits : Text) : Nat :=
  digits.foldl (fun value c => base * value + (hexValue? c).getD 0) 0

def basedInteger? : Text → Option (Value × Text)
  | '0' :: mark :: rest =>
    let based (base : Nat) (cls : Char → Bool) :=
      (digits? cls rest).map fun (digits, rest) => (Value.integer (valueIn base digits), rest)
    match mark with
    | 'x' => based 16 fun c => (hexValue? c).isSome
    | 'b' => based 2 fun c => c == '0' || c == '1'
    | 'o' => based 8 fun c => '0' ≤ c && c ≤ '7'
    | _ => none
  | _ => none

def sign : Text → Bool × Text
  | '-' :: rest => (true, rest)
  | '+' :: rest => (false, rest)
  | rest => (false, rest)

/-- The whole part of a number: a zero alone, or digits that begin with no zero. -/
def wholePart? : Text → Option (Text × Text)
  | '0' :: rest => some (['0'], rest)
  | text => digits? Char.isDigit text

/-- A point and digits, or no digits if none follow. -/
def fraction (text : Text) : Text × Text :=
  match text with
  | '.' :: rest => (digits? Char.isDigit rest).getD ([], text)
  | _ => ([], text)

def exponent? : Text → Option (Int × Text)
  | mark :: rest =>
    if mark == 'e' || mark == 'E' then
      let (negative, rest) := sign rest
      (digits? Char.isDigit rest).map fun (digits, rest) =>
        let size : Int := valueIn 10 digits
        (if negative then -size else size, rest)
    else none
  | [] => none

/-- A decimal integer, which must not be overlong. -/
def decimalInteger (negative : Bool) (digits : Text) : Except Fault Value :=
  if digits.length ≤ maxDigits then
    let size : Int := valueIn 10 digits
    .ok (.integer (if negative then -size else size))
  else .error (.overlong ⟨digits.length⟩)

def decimal? (text : Text) : Option (Except Fault Value × Text) :=
  let (negative, unsigned) := sign text
  (wholePart? unsigned).map fun (whole, afterWhole) =>
    let (part, afterPart) := fraction afterWhole
    let float (power : Int) : Except Fault Value :=
      .ok (.float (.ofDecimal negative (valueIn 10 (whole ++ part)) (power - part.length)))
    match exponent? afterPart with
    | some (power, rest) => (float power, rest)
    | none =>
      if part.isEmpty then (decimalInteger negative whole, afterPart) else (float 0, afterPart)

def specialFloat? (text : Text) : Option (Value × Text) :=
  let (negative, unsigned) := sign text
  match unsigned with
  | 'i' :: 'n' :: 'f' :: rest => some (.float (.infinite negative), rest)
  | 'n' :: 'a' :: 'n' :: rest => some (.float .nan, rest)
  | _ => none

def twoDigits? (low high : Nat) : Text → Option (Nat × Text)
  | a :: b :: rest =>
    let n := valueIn 10 [a, b]
    if a.isDigit && b.isDigit && low ≤ n && n ≤ high then some (n, rest) else none
  | _ => none

/-- What follows the given character, if it comes next. -/
def after? (c : Char) : Text → Option Text
  | d :: rest => if c = d then some rest else none
  | [] => none

/-- What follows a time of day with seconds and perhaps a fraction of a second. -/
def afterTime? (text : Text) : Option Text := do
  let (_, text) ← twoDigits? 0 23 text
  let (_, text) ← twoDigits? 0 59 (← after? ':' text)
  let (_, text) ← twoDigits? 0 59 (← after? ':' text)
  match text with
  | '.' :: c :: rest => return if c.isDigit then rest.dropWhile Char.isDigit else text
  | _ => return text

/-- What follows the offset of a time of day, if there is one. -/
def afterOffset (text : Text) : Text :=
  match text with
  | c :: rest =>
    if c == 'Z' || c == 'z' then rest
    else if c == '+' || c == '-' then
      let offset : Option Text := do
        let (_, rest) ← twoDigits? 0 23 rest
        let (_, rest) ← twoDigits? 0 59 (← after? ':' rest)
        return rest
      offset.getD text
    else text
  | [] => []

def daysIn (year month : Nat) : Nat :=
  if month = 2 then
    if year % 4 = 0 && (year % 100 != 0 || year % 400 = 0) then 29 else 28
  else if month = 4 || month = 6 || month = 9 || month = 11 then 30
  else 31

/-- A date: whether its day exists, and the rest. -/
def date? (text : Text) : Option (Bool × Text) := do
  let (century, text) ← twoDigits? 0 99 text
  let (rest, text) ← twoDigits? 0 99 text
  let year := 100 * century + rest
  let (month, text) ← twoDigits? 1 12 (← after? '-' text)
  let (day, text) ← twoDigits? 1 31 (← after? '-' text)
  return (1 ≤ year && day ≤ daysIn year month, text)

/-- What follows the time of a date, if it has one. -/
def afterDate (text : Text) : Text :=
  match text with
  | c :: rest =>
    if c == 'T' || c == 't' || c == ' ' then ((afterTime? rest).map afterOffset).getD text
    else text
  | [] => []

def moment? (text : Text) : Option (Except Fault Value × Text) :=
  match date? text with
  | some (true, rest) => some (.ok .moment, afterDate rest)
  | some (false, rest) => some (.error .malformed, rest)
  | none => (afterTime? text).map fun rest => (.ok .moment, rest)

def scalar : Reader Value := fun text =>
  match moment? text with
  | some (value, rest) => value.map (·, rest)
  | none =>
    match basedInteger? text with
    | some found => .ok found
    | none =>
      match decimal? text with
      | some (value, rest) => value.map (·, rest)
      | none =>
        match specialFloat? text with
        | some found => .ok found
        | none => .error .malformed

end DiagnosticMarkers.Toml
