import DiagnosticMarkers.Report.Parameters.Fault

/-!
# Numerals in parameters

Numbers are written in base ten, with a fraction, an exponent or the letter of imaginary
numbers behind them, or in another base behind a prefix. Single underscores may stand between
digits. A numeral ends where no letter follows, but for the beginnings of a few words.
-/

namespace DiagnosticMarkers.Report.Parameters

open Text

/-- A number, as far as its value matters. -/
inductive Numeral where
  /-- An integer in base ten with a number of digits. -/
  | decimal (digits : Nat)
  /-- An integer in another base. -/
  | based
  | real
  | imaginary
deriving DecidableEq, Repr

/-- Can the character stand in a word or numeral? Beyond ASCII that is not yet decided. -/
def inWord (c : Char) : Bool :=
  c.isAlphanum || c == '_' || 0x80 ≤ c.toNat

/-- Words that may stand right behind a numeral. -/
def wordsBehindNumerals : List Text :=
  ["and".toList, "else".toList, "for".toList, "or".toList, "not".toList]

/-- Beginnings of words that may stand right behind a numeral. -/
def beginningsBehindNumerals : List Text :=
  ["if".toList, "in".toList, "is".toList]

/-- The text behind a numeral. No character of words stands there unless it begins one of a
few words. -/
def endNumeral (form : NumberForm) (rest : Text) : Except Fault Text :=
  if wordsBehindNumerals.contains (rest.takeWhile inWord)
      || beginningsBehindNumerals.any (·.isPrefixOf rest) then .ok rest
  else if rest.head?.any inWord then .error (.invalidNumber form)
  else .ok rest

/-- Drop digits with single underscores between them. Another digit must follow each
underscore. -/
def dropDigits (isDigit : Char → Bool) (fault : Fault) : Text → Except Fault Text
  | '_' :: c :: rest => if isDigit c then dropDigits isDigit fault rest else .error fault
  | ['_'] => .error fault
  | c :: rest => if isDigit c then dropDigits isDigit fault rest else .ok (c :: rest)
  | [] => .ok []

def noDigit (form : NumberForm) (rest : Text) : Fault :=
  match rest with
  | c :: _ =>
    if c.isDigit && form != .hexadecimal then .invalidDigit c form else .invalidNumber form
  | [] => .invalidNumber form

/-- Drop digits of a base with single underscores between them and in front. -/
def dropBasedDigits (form : NumberForm) (isDigit : Char → Bool) : Text → Except Fault Text
  | '_' :: c :: rest =>
    if isDigit c then dropBasedDigits form isDigit rest else .error (noDigit form (c :: rest))
  | ['_'] => .error (.invalidNumber form)
  | c :: rest => if isDigit c then dropBasedDigits form isDigit rest else .ok (c :: rest)
  | [] => .ok []

def dropBased (form : NumberForm) (isDigit : Char → Bool) (text : Text) :
    Except Fault Text := do
  let rest ← dropBasedDigits form isDigit text
  if rest.length = text.length || rest.head?.any Char.isDigit then throw (noDigit form rest)
  endNumeral form rest

def dropExponent (rest : Text) : Except Fault Text :=
  let ending (rest : Text) : Except Fault Text :=
    match rest with
    | c :: after =>
      if c = 'j' || c = 'J' then endNumeral .imaginary after else endNumeral .decimal rest
    | [] => .ok []
  let digits (rest : Text) : Except Fault Text := do
    ending (← dropDigits Char.isDigit (.invalidNumber .decimal) rest)
  match rest with
  | e :: after =>
    if e = 'e' || e = 'E' then
      match after with
      | sign :: more =>
        if sign = '+' || sign = '-' then
          if more.head?.any Char.isDigit then digits more else .error (.invalidNumber .decimal)
        else if sign.isDigit then digits after
        else endNumeral .decimal rest
      | [] => endNumeral .decimal rest
    else ending rest
  | [] => .ok []

def dropFraction (rest : Text) : Except Fault Text := do
  if rest.head?.any Char.isDigit then
    dropExponent (← dropDigits Char.isDigit (.invalidNumber .decimal) rest)
  else dropExponent rest

/-- The text behind a numeral in base ten. Only zero begins with a zero, unless a fraction, an
exponent or the letter of imaginary numbers follows. -/
def dropDecimal (text : Text) : Except Fault Text := do
  let rest ← dropDigits Char.isDigit (.invalidNumber .decimal) text
  let digits := (text.take (text.length - rest.length)).filter Char.isDigit
  if digits.head? = some '0' && digits.any (· != '0')
      && !rest.head?.any ".eEjJ".toList.contains then
    throw .leadingZeros
  match rest with
  | '.' :: after => dropFraction after
  | rest => dropExponent rest

/-- The text behind a numeral that begins with a digit or a point. -/
def dropNumeral : Text → Except Fault Text
  | '.' :: rest => dropFraction rest
  | '0' :: c :: rest =>
    if c = 'x' || c = 'X' then
      dropBased .hexadecimal (fun d => d.isDigit || "abcdefABCDEF".toList.contains d) rest
    else if c = 'o' || c = 'O' then dropBased .octal (fun d => '0' ≤ d && d ≤ '7') rest
    else if c = 'b' || c = 'B' then dropBased .binary (fun d => d = '0' || d = '1') rest
    else dropDecimal ('0' :: c :: rest)
  | text => dropDecimal text

def Numeral.ofText (text : Text) : Numeral :=
  if text[1]?.any "xXoObB".toList.contains then .based
  else if text.getLast?.any "jJ".toList.contains then .imaginary
  else if text.any ".eE".toList.contains then .real
  else .decimal (text.filter Char.isDigit).length

def readNumeral (text : Text) : Except Fault (Numeral × Text) := do
  let rest ← dropNumeral text
  return (Numeral.ofText (text.take (text.length - rest.length)), rest)

end DiagnosticMarkers.Report.Parameters
