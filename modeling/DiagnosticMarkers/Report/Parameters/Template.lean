import DiagnosticMarkers.Report.Parameters.Fault
import DiagnosticMarkers.Text.CharacterName
import DiagnosticMarkers.Text.Quoted

/-!
# Templates

A template is a text with expressions in braces. A doubled brace stands for itself. Behind an
expression may stand an equals sign, a conversion and a format, which is a template, too.

In a quoted text a backslash and a letter begin an escape: two, four or eight hexadecimal digits,
or the name of a character in braces. Octets only know the first of these. Positions of faults
count characters of a form in which each character beyond ASCII is an escape of eight digits.
-/

namespace DiagnosticMarkers.Report.Parameters

open Text

/-! ## Escapes in quoted texts -/

/-- A character as an escape of eight digits if it is not of ASCII. -/
def asciiEscape (c : Char) : Text :=
  if 0x80 ≤ c.toNat then '\\' :: 'U' :: hexDigits 8 c.toNat else [c]

/-- A text in ASCII. A backslash that escapes nothing there is itself an escape of four
digits. -/
def asciiForm : Text → Text
  | '\\' :: c :: rest =>
    (if 0x80 ≤ c.toNat then "\\u005c".toList ++ asciiEscape c else ['\\', c]) ++ asciiForm rest
  | ['\\'] => "\\u005c".toList
  | c :: rest => asciiEscape c ++ asciiForm rest
  | [] => []

def hexValue? (c : Char) : Option Nat :=
  if c.isDigit then some (c.toNat - 48)
  else if 'a' ≤ c && c ≤ 'f' then some (c.toNat - 87)
  else if 'A' ≤ c && c ≤ 'F' then some (c.toNat - 55)
  else none

def hexValue (digits : Text) : Nat :=
  digits.foldl (fun value c => 16 * value + (hexValue? c).getD 0) 0

/-- The hexadecimal digits in front of a text, at most a number of them. -/
def leadingHexDigits (most : Nat) (text : Text) : Text :=
  (text.take most).takeWhile fun c => (hexValue? c).isSome

def escapeDigits? (letter : Char) : Option Nat :=
  if letter = 'x' then some 2 else if letter = 'u' then some 4
  else if letter = 'U' then some 8 else none

/-- The fault of an escape at a position, with digits behind its letter. -/
def digitsFault? (position : Nat) (letter : Char) (count : Nat) (rest : Text) : Option Fault :=
  let digits := leadingHexDigits count rest
  let last := position + 1 + digits.length
  if digits.length < count then some (.textEscape (.truncated letter count) position last)
  else if 0x10FFFF < hexValue digits then some (.textEscape .illegal position last)
  else none

/-- The fault of an escape at a position that gives the name of a character. -/
def nameFault? (position : Nat) : Text → Option Fault
  | '{' :: rest =>
    let name := rest.takeWhile (· != '}')
    let last := position + 2 + name.length
    if name.length = rest.length then some (.textEscape .malformedName position last)
    else if name.isEmpty then some (.textEscape .malformedName position last)
    else if isCharacterName name then none
    else some (.textEscape .unknownName position (last + 1))
  | _ => some (.textEscape .malformedName position (position + 1))

/-- Check the escapes of a text in ASCII from a position on. -/
def checkEscapes (position : Nat) : Text → Except Fault Unit
  | '\\' :: letter :: rest =>
    let fault? :=
      match escapeDigits? letter with
      | some count => digitsFault? position letter count rest
      | none => if letter = 'N' then nameFault? position rest else none
    match fault? with
    | some fault => .error fault
    | none => checkEscapes (position + 2) rest
  | _ :: rest => checkEscapes (position + 1) rest
  | [] => .ok ()

/-- Check the escapes of octets from a position on. -/
def checkOctetEscapes (position : Nat) : Text → Except Fault Unit
  | '\\' :: letter :: rest =>
    if letter = 'x' && (leadingHexDigits 2 rest).length < 2 then .error (.octetEscape position)
    else checkOctetEscapes (position + 2) rest
  | _ :: rest => checkOctetEscapes (position + 1) rest
  | [] => .ok ()

/-! ## Templates -/

structure TemplateReader where
  /-- Backslashes stand for themselves. -/
  raw : Bool
  /-- A fault of the template as it is reported. -/
  reported : Fault → Fault
  /-- Read an expression in brackets. -/
  expression : Text → Except Fault Unit

/-- The literal text at the start of a template, whether it ends with a brace that is doubled,
and what follows it. The first `skip` characters are literal. -/
def scanLiteral (raw nested : Bool) (skip : Nat) :
    Text → Except TemplateFault (Text × Bool × Text)
  | [] => .ok ([], false, [])
  | c :: rest =>
    let goOn (skip : Nat) : Except TemplateFault (Text × Bool × Text) :=
      (scanLiteral raw nested skip rest).map fun (text, doubled, after) =>
        (c :: text, doubled, after)
    if 0 < skip then goOn (skip - 1)
    else if !raw && c = '\\' then
      match rest with
      | 'N' :: '{' :: name => goOn (2 + (name.takeWhile (· != '}')).length + 1)
      | 'N' :: _ => goOn 2
      | d :: _ => if d = '{' || d = '}' then goOn 0 else goOn 1
      | [] => goOn 0
    else if c = '{' || c = '}' then
      if nested then .ok ([], false, c :: rest)
      else if rest.head? = some c then .ok ([c], true, rest.drop 1)
      else if c = '}' then .error .strayBrace
      else .ok ([], false, c :: rest)
    else goOn 0

structure OpenQuote where
  quote : Char
  triple : Bool
deriving DecidableEq

/-- The expression at the start of a text and what follows it. The expression ends in front of
a closing brace, a colon, an exclamation mark or an equals sign outside of brackets and
quotes. The first `skip` characters belong to a mark or a quote. -/
def scanExpression (open? : Option OpenQuote) (brackets : List BracketPair) (skip : Nat) :
    Text → Except TemplateFault (Text × Text)
  | [] =>
    if open?.isSome then .error .openQuote
    else
      match brackets with
      | [] => .ok ([], [])
      | pair :: _ => .error (.unmatched pair.opening)
  | c :: rest =>
    let goOn (open? : Option OpenQuote) (brackets : List BracketPair) (skip : Nat) :
        Except TemplateFault (Text × Text) :=
      (scanExpression open? brackets skip rest).map fun (text, after) => (c :: text, after)
    if 0 < skip then goOn open? brackets (skip - 1)
    else if c = '\\' then .error .backslash
    else
      let twice := [c, c].isPrefixOf rest
      match open? with
      | some quote =>
        if c = quote.quote && !quote.triple then goOn none brackets 0
        else if c = quote.quote && twice then goOn none brackets 2
        else goOn open? brackets 0
      | none =>
        if c = '"' || c = '\'' then goOn (some ⟨c, twice⟩) brackets (if twice then 2 else 0)
        else
          match BracketPair.ofOpening? c, BracketPair.ofClosing? c, brackets with
          | some pair, _, _ =>
            if maxBrackets ≤ brackets.length then .error .tooManyBrackets
            else goOn none (pair :: brackets) 0
          | none, closed?, [] =>
            if c = '#' then .error .numberSign
            else if (c = '!' || c = '=' || c = '<' || c = '>') && rest.head? = some '=' then
              goOn none [] 1
            else if c = '!' || c = ':' || c = '}' || c = '=' then .ok ([], c :: rest)
            else if closed?.isSome then .error (.unmatched c)
            else goOn none [] 0
          | none, some pair, last :: below =>
            if last = pair then goOn none below 0 else .error (.mismatched pair last)
          | none, none, _ => if c = '#' then .error .numberSign else goOn none brackets 0

namespace TemplateReader

def report (reader : TemplateReader) {α : Type} (result : Except TemplateFault α) :
    Except Fault α :=
  result.mapError fun fault => reader.reported (.template fault)

/-- Read the text of an expression, which ends in front of the text that follows it. -/
def readExpression (reader : TemplateReader) (text rest : Text) : Except Fault Unit :=
  if text.all fun c => c = ' ' || c = '\t' || c = '\n' || c = '\x0c' then
    match rest with
    | c :: _ =>
      reader.report (.error (if "!:=".contains c then .nothingBefore c else .emptyExpression))
    | [] => reader.report (.error .missingBrace)
  else reader.expression ('(' :: text ++ [')'])

def readConversion (rest : Text) : Except TemplateFault Text :=
  match rest with
  | '!' :: c :: after =>
    if c = 's' || c = 'r' || c = 'a' then .ok after else .error .conversion
  | ['!'] => .error .missingBrace
  | rest => .ok rest

/-- Read a template, nested in others or not: the text behind it. Each round reads a character
or more, so there are no more rounds than characters. -/
def readFrom (reader : TemplateReader) : Nat → Nat → Text → Except Fault Text
  | 0, _, text => .ok text
  | rounds + 1, depth, text => do
    let (literal, doubled, rest) ← reader.report (scanLiteral reader.raw (0 < depth) 0 text)
    if !reader.raw then (checkEscapes 0 (asciiForm literal)).mapError reader.reported
    match doubled, rest with
    | false, '{' :: rest =>
      if 2 ≤ depth then reader.report (.error .tooDeep)
      let (expression, rest) ← reader.report (scanExpression none [] 0 rest)
      if rest.isEmpty then reader.report (.error .missingBrace)
      reader.readExpression expression rest
      let rest := if rest.head? = some '=' then rest.drop 1 else rest
      let rest ← reader.report (readConversion rest)
      let rest ←
        match rest with
        | ':' :: format =>
          if format.isEmpty then reader.report (.error .missingBrace)
          else reader.readFrom rounds (depth + 1) format
        | rest => pure rest
      match rest with
      | '}' :: rest => reader.readFrom rounds depth rest
      | _ => reader.report (.error .missingBrace)
    | true, rest => reader.readFrom rounds depth rest
    | false, rest =>
      if 0 < depth && rest.head? ≠ some '}' then reader.report (.error .missingBrace)
      return rest

def read (reader : TemplateReader) (text : Text) : Except Fault Unit := do
  let _ ← reader.readFrom (text.length + 1) 0 text

end TemplateReader

end DiagnosticMarkers.Report.Parameters
