import DiagnosticMarkers.Number
import DiagnosticMarkers.Text.Quoted

/-!
# Faults of parameters

Why the parameters of an action cannot be read, from the characters up to the values, and the
words for each fault.
-/

namespace DiagnosticMarkers.Report.Parameters

inductive BracketPair where
  | round
  | square
  | curly
deriving DecidableEq, Repr

namespace BracketPair

def opening : BracketPair → Char
  | round => '('
  | square => '['
  | curly => '{'

def closing : BracketPair → Char
  | round => ')'
  | square => ']'
  | curly => '}'

def all : List BracketPair := [round, square, curly]

def ofOpening? (c : Char) : Option BracketPair :=
  all.find? fun pair => pair.opening = c

def ofClosing? (c : Char) : Option BracketPair :=
  all.find? fun pair => pair.closing = c

end BracketPair

/-- The most brackets that may be open. -/
def maxBrackets : Nat := 200

open Text

/-- A way to write a number. -/
inductive NumberForm where
  | decimal
  | hexadecimal
  | octal
  | binary
  | imaginary
deriving DecidableEq, Repr

def NumberForm.word : NumberForm → String
  | decimal => "decimal"
  | hexadecimal => "hexadecimal"
  | octal => "octal"
  | binary => "binary"
  | imaginary => "imaginary"

/-- What is wrong with an escape in a quoted text. -/
inductive EscapeProblem where
  /-- Fewer hexadecimal digits than the letter asks for. -/
  | truncated (letter : Char) (digits : Nat)
  /-- A code point that is none. -/
  | illegal
  /-- A name without braces. -/
  | malformedName
  | unknownName
deriving DecidableEq, Repr

def EscapeProblem.message : EscapeProblem → Text
  | truncated letter digits =>
    "truncated \\".toList ++ letter :: List.replicate digits 'X' ++ " escape".toList
  | illegal => "illegal Unicode character".toList
  | malformedName => "malformed \\N character escape".toList
  | unknownName => "unknown Unicode character name".toList

inductive ParameterFault where
  | noDefaultBehindDefault
  | parenthesized
  | nothingBeforeSlash
  | secondSlash
  | slashBehindStar
  | noCommaBeforeStar
  | nothingBehindStar
  | defaultOfStar
  | secondStar
  | defaultOfDoubleStar
  | behindDoubleStar
  | missingDefault
deriving DecidableEq, Repr

def ParameterFault.message : ParameterFault → String
  | noDefaultBehindDefault => "non-default argument follows default argument"
  | parenthesized => "Lambda expression parameters cannot be parenthesized"
  | nothingBeforeSlash => "at least one argument must precede /"
  | secondSlash => "/ may appear only once"
  | slashBehindStar => "/ must be ahead of *"
  | noCommaBeforeStar => "expected comma between / and *"
  | nothingBehindStar => "named arguments must follow bare *"
  | defaultOfStar => "var-positional argument cannot have default value"
  | secondStar => "* argument may appear only once"
  | defaultOfDoubleStar => "var-keyword argument cannot have default value"
  | behindDoubleStar => "arguments cannot follow var-keyword argument"
  | missingDefault => "expected default value expression"

inductive ArgumentFault where
  | starBehindKeywords
  | bareGenerator
  | positionalBehindUnpacking
  | positionalBehindKeyword
  | assignedExpression
deriving DecidableEq, Repr

def ArgumentFault.message : ArgumentFault → String
  | starBehindKeywords => "iterable argument unpacking follows keyword argument unpacking"
  | bareGenerator => "Generator expression must be parenthesized"
  | positionalBehindUnpacking => "positional argument follows keyword argument unpacking"
  | positionalBehindKeyword => "positional argument follows keyword argument"
  | assignedExpression =>
    "expression cannot contain assignment, perhaps you meant \"==\"?"

/-- What is wrong with a template, a text that holds expressions in braces. -/
inductive TemplateFault where
  | emptyExpression
  | nothingBefore (mark : Char)
  | backslash
  | numberSign
  | openQuote
  | unmatched (bracket : Char)
  | mismatched (closing opening : BracketPair)
  | tooManyBrackets
  | tooDeep
  | conversion
  | missingBrace
  | strayBrace
deriving DecidableEq, Repr

def TemplateFault.message : TemplateFault → Text
  | emptyExpression => "f-string: empty expression not allowed".toList
  | nothingBefore mark => "f-string: expression required before '".toList ++ [mark, '\'']
  | backslash => "f-string expression part cannot include a backslash".toList
  | numberSign => "f-string expression part cannot include '#'".toList
  | openQuote => "f-string: unterminated string".toList
  | unmatched bracket => "f-string: unmatched '".toList ++ [bracket, '\'']
  | mismatched closing opening =>
    "f-string: closing parenthesis '".toList ++ closing.closing
      :: "' does not match opening parenthesis '".toList ++ [opening.opening, '\'']
  | tooManyBrackets => "f-string: too many nested parenthesis".toList
  | tooDeep => "f-string: expressions nested too deeply".toList
  | conversion =>
    "f-string: invalid conversion character: expected 's', 'r', or 'a'".toList
  | missingBrace => "f-string: expecting '\x7d'".toList
  | strayBrace => "f-string: single '\x7d' is not allowed".toList

/-- Why parameters cannot be read. -/
inductive Fault where
  | malformed
  | invalidNumber (form : NumberForm)
  | invalidDigit (digit : Char) (form : NumberForm)
  | leadingZeros
  | overlong (number : OverlongNumber)
  | openQuote (line : Nat)
  | openTripleQuote (line : Nat)
  | invalidCharacter (c : Char)
  | strayBackslash
  | nothingBehindBackslash
  | unexpectedIndent
  | unexpectedDedent
  | unmatchedDedent
  | mixedIndent
  | unmatched (closing : BracketPair)
  | mismatched (closing opening : BracketPair) (openingLine : Option Nat)
  | neverClosed (opening : BracketPair)
  | tooManyBrackets
  | missingComma
  | missingElse
  /-- A word is followed by an operand that should stand in brackets. -/
  | missingBrackets (name : Text)
  /-- A name is followed by a single equals sign. -/
  | singleEquals
  /-- Something that is no name is followed by a single equals sign. -/
  | assignedTo (described : String)
  /-- Something that is no name is followed by a colon and an equals sign. -/
  | namedTarget (described : String)
  /-- Something that cannot be assigned to is the target of a loop or the name of an
  argument. -/
  | target (described : String)
  | argument (fault : ArgumentFault)
  | parameter (fault : ParameterFault)
  | starredGroup
  | doubleStarredGroup
  | starredComprehension
  | unpackingComprehension
  | bareTarget
  | starredValue
  | missingValue
  | missingColon
  | wideOctets
  | mixedTexts
  /-- An escape in a text, with the numbers of its first and its last character. -/
  | textEscape (problem : EscapeProblem) (first last : Nat)
  /-- An escape in octets that is none, with its number. -/
  | octetEscape (position : Nat)
  | template (fault : TemplateFault)
  /-- A fault in an expression of a template. -/
  | inTemplate (fault : Fault)
deriving DecidableEq, Repr

/-- A code point in at least four hexadecimal digits. -/
def codePoint (c : Char) : Text :=
  let digits := (Nat.toDigits 16 c.toNat).map Char.toUpper
  "U+".toList ++ List.replicate (4 - digits.length) '0' ++ digits

def Fault.message : Fault → Text
  | malformed => "invalid syntax".toList
  | invalidNumber form => s!"invalid {form.word} literal".toList
  | invalidDigit digit form =>
    "invalid digit '".toList ++ digit :: s!"' in {form.word} literal".toList
  | leadingZeros =>
    "leading zeros in decimal integer literals are not permitted; ".toList
      ++ "use an 0o prefix for octal integers".toList
  | overlong number =>
    number.message.toList ++ " - Consider hexadecimal for huge integer literals ".toList
      ++ "to avoid decimal conversion limits.".toList
  | openQuote line => s!"unterminated string literal (detected at line {line})".toList
  | openTripleQuote line =>
    s!"unterminated triple-quoted string literal (detected at line {line})".toList
  | invalidCharacter c =>
    if isPrintable c then
      "invalid character '".toList ++ c :: "' (".toList ++ codePoint c ++ [')']
    else "invalid non-printable character ".toList ++ codePoint c
  | strayBackslash => "unexpected character after line continuation character".toList
  | nothingBehindBackslash => "unexpected EOF while parsing".toList
  | unexpectedIndent => "unexpected indent".toList
  | unexpectedDedent => "unexpected unindent".toList
  | unmatchedDedent => "unindent does not match any outer indentation level".toList
  | mixedIndent => "inconsistent use of tabs and spaces in indentation".toList
  | unmatched closing => "unmatched '".toList ++ [closing.closing, '\'']
  | mismatched closing opening openingLine =>
    "closing parenthesis '".toList ++ closing.closing
      :: "' does not match opening parenthesis '".toList ++ [opening.opening, '\'']
      ++ (openingLine.map fun line => s!" on line {line}".toList).getD []
  | neverClosed opening => ['\'', opening.opening] ++ "' was never closed".toList
  | tooManyBrackets => "too many nested parentheses".toList
  | missingComma => "invalid syntax. Perhaps you forgot a comma?".toList
  | missingElse => "expected 'else' after 'if' expression".toList
  | missingBrackets name =>
    "Missing parentheses in call to '".toList ++ name ++ "'. Did you mean ".toList ++ name
      ++ "(...)?".toList
  | singleEquals => "invalid syntax. Maybe you meant '==' or ':=' instead of '='?".toList
  | assignedTo described =>
    s!"cannot assign to {described} here. Maybe you meant '==' instead of '='?".toList
  | namedTarget described => s!"cannot use assignment expressions with {described}".toList
  | target described => s!"cannot assign to {described}".toList
  | argument fault => fault.message.toList
  | parameter fault => fault.message.toList
  | starredGroup => "cannot use starred expression here".toList
  | doubleStarredGroup => "cannot use double starred expression here".toList
  | starredComprehension => "iterable unpacking cannot be used in comprehension".toList
  | unpackingComprehension => "dict unpacking cannot be used in dict comprehension".toList
  | bareTarget => "did you forget parentheses around the comprehension target?".toList
  | starredValue => "cannot use a starred expression in a dictionary value".toList
  | missingValue => "expression expected after dictionary key and ':'".toList
  | missingColon => "':' expected after dictionary key".toList
  | wideOctets => "bytes can only contain ASCII literal characters".toList
  | mixedTexts => "cannot mix bytes and nonbytes literals".toList
  | textEscape problem first last =>
    s!"(unicode error) 'unicodeescape' codec can't decode bytes in position {first}-{last}: ".toList
      ++ problem.message
  | octetEscape position =>
    "(value error) invalid \\x escape at position ".toList ++ Text.ofNat position
  | template fault => fault.message
  | inTemplate fault => "f-string: ".toList ++ fault.message

/-- Why parameters that can be read have no value. -/
inductive ValueFault where
  /-- A key of a map or an item of a set that can be neither. -/
  | unhashable (kind : String)
  /-- The values of another map are to be put into a map. -/
  | unpacked
  /-- Anything else that is no value of its own. -/
  | noValue
  | nullCharacter
deriving DecidableEq, Repr

def ValueFault.message : ValueFault → Text
  | unhashable kind => s!"unhashable type: '{kind}'".toList
  | unpacked => "malformed node or string: None".toList
  | noValue => "malformed node or string on line 1".toList
  | nullCharacter => "source code string cannot contain null bytes".toList

end DiagnosticMarkers.Report.Parameters
