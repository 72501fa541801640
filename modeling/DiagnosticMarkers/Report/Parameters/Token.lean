import DiagnosticMarkers.Report.Parameters.Numeral
import DiagnosticMarkers.Text.Identifier

/-!
# Tokens of parameters

The parameters of an action are cut into numbers, quoted texts, names, keywords, marks and line
ends. Each bracket is closed by its partner. Inside of brackets line ends do not count; outside
of them the blanks in front of a line indent it.
-/

namespace DiagnosticMarkers.Report.Parameters

open Text

structure Quotation where
  octets : Bool
  /-- Backslashes stand for themselves. -/
  raw : Bool
  /-- Braces hold expressions. -/
  template : Bool
  content : Text
deriving DecidableEq, Repr

/-- A token. Brackets are marks. -/
inductive Token where
  | name (name : Text)
  | keyword (word : String)
  | number (number : Numeral)
  | quoted (quotation : Quotation)
  | mark (mark : String)
  | lineEnd
  | indent
  | dedent
  /-- The end of the text. -/
  | finish
deriving DecidableEq, Repr

structure Lexeme where
  token : Token
  /-- The number of brackets that are open behind the token. -/
  depth : Nat
  line : Nat
  /-- Has the end of the text been seen in looking for the end of the token? -/
  atEnd : Bool
deriving Repr

structure Bracket where
  pair : BracketPair
  line : Nat
deriving Repr

/-- What keeps a text from being read to its end. -/
structure Obstacle where
  fault : Fault
  /-- Does it count only if the tokens in front of it are read without fault? -/
  late : Bool
  /-- The last open bracket. -/
  bracket : Option Bracket
deriving Repr

structure Tokens where
  lexemes : Array Lexeme
  obstacle : Option Obstacle
deriving Repr

def keywords : List String :=
  ["False", "None", "True", "and", "as", "assert", "async", "await", "break", "class", "continue",
    "def", "del", "elif", "else", "except", "finally", "for", "from", "global", "if", "import",
    "in", "is", "lambda", "nonlocal", "not", "or", "pass", "raise", "return", "try", "while",
    "with", "yield"]

/-- Marks of more than one character, the longest first. -/
def longMarks : List String :=
  ["...", "**=", "//=", "<<=", ">>=", "**", "//", "<<", ">>", "==", "!=", "<=", ">=", "->",
    ":=", "+=", "-=", "*=", "/=", "%=", "&=", "|=", "^=", "@=", "<>"]

def quotedOnce (quote : Char) : Text → Option (Text × Text)
  | [] => none
  | c :: rest =>
    if c = quote then some ([], rest)
    else if c = '\n' then none
    else if c = '\\' then
      match rest with
      | [] => none
      | d :: rest => (quotedOnce quote rest).map fun (content, rest) => (c :: d :: content, rest)
    else (quotedOnce quote rest).map fun (content, rest) => (c :: content, rest)

def quotedThrice (quote : Char) : Text → Option (Text × Text)
  | [] => none
  | c :: rest =>
    if c = quote && [quote, quote].isPrefixOf rest then some ([], rest.drop 2)
    else if c = '\\' then
      match rest with
      | [] => none
      | d :: rest =>
        (quotedThrice quote rest).map fun (content, rest) => (c :: d :: content, rest)
    else (quotedThrice quote rest).map fun (content, rest) => (c :: content, rest)

/-- The words that may stand in front of a quote, in lower case. -/
def quoteWords : List Text :=
  ["r".toList, "u".toList, "b".toList, "br".toList, "rb".toList, "f".toList, "fr".toList,
    "rf".toList]

def lineEnds (text : Text) : Nat :=
  text.count '\n'

/-- The line of the last character of a text that begins in a line. -/
def lastLine (line : Nat) (text : Text) : Nat :=
  line + lineEnds text.dropLast

/-- Where a single quoted text that is never closed ends: at the line end that no backslash
escapes, or at the last character. -/
def lineOfOpenQuote (line : Nat) : Text → Nat
  | ['\\', _] => line
  | '\\' :: c :: rest => lineOfOpenQuote (if c = '\n' then line + 1 else line) rest
  | '\n' :: _ => line
  | _ :: rest => lineOfOpenQuote line rest
  | [] => line

/-- Read a quoted text behind its quote, with the word in front of it. -/
def readQuoted (word : Text) (line : Nat) (quote : Char) (rest : Text) :
    Except Fault (Token × Text) :=
  let finish (found : Option (Text × Text)) (fault : Fault) : Except Fault (Token × Text) :=
    match found with
    | none => .error fault
    | some (content, rest) =>
      .ok (.quoted ⟨word.contains 'b', word.contains 'r', word.contains 'f', content⟩, rest)
  if [quote, quote].isPrefixOf rest then
    finish (quotedThrice quote (rest.drop 2)) (.openTripleQuote (lastLine line rest))
  else finish (quotedOnce quote rest) (.openQuote (lineOfOpenQuote line rest))

def strangeCharacter? : Text → Option Char
  | [] => none
  | c :: rest => if beginsIdentifier c then rest.find? (!inIdentifier ·) else some c

def readWord (line : Nat) (text : Text) : Except Fault (Token × Text) :=
  let word := text.takeWhile inWord
  let lower := word.map Char.toLower
  match text.drop word.length, strangeCharacter? word with
  | quote :: rest, strange =>
    if (quote = '"' || quote = '\'') && quoteWords.contains lower then
      readQuoted lower line quote rest
    else
      match strange with
      | some c => .error (.invalidCharacter c)
      | none =>
        .ok (if keywords.contains (String.ofList word) then .keyword (String.ofList word)
          else .name word, quote :: rest)
  | [], some c => .error (.invalidCharacter c)
  | [], none =>
    .ok (if keywords.contains (String.ofList word) then .keyword (String.ofList word)
      else .name word, [])

/-- The brackets that are open behind a character. -/
def bracketsBehind (opened : List Bracket) (line : Nat) (c : Char) :
    Except Fault (List Bracket) :=
  match BracketPair.ofOpening? c, BracketPair.ofClosing? c, opened with
  | some pair, _, _ =>
    if maxBrackets ≤ opened.length then .error .tooManyBrackets else .ok (⟨pair, line⟩ :: opened)
  | none, some pair, [] => .error (.unmatched pair)
  | none, some pair, last :: below =>
    if last.pair = pair then .ok below
    else .error (.mismatched pair last.pair (if last.line = line then none else some last.line))
  | none, none, _ => .ok opened

/-- How far a line is indented, with tabs to every eighth column and with tabs of one
column. -/
structure Indentation where
  columns : Nat := 0
  narrow : Nat := 0
deriving DecidableEq

structure Place where
  line : Nat := 1
  /-- Is this the start of a line? -/
  fresh : Bool := true
  /-- The brackets that are open, the last one first. -/
  brackets : List Bracket := []
  /-- The indentations that are open, the last one first. -/
  indents : List Indentation := []

/-- An obstacle that counts at once. -/
def Place.obstruct (place : Place) (fault : Fault) : Obstacle :=
  { fault, late := false, bracket := place.brackets.head? }

/-- An obstacle that counts if reading gets to it. -/
def Place.obstructLate (place : Place) (fault : Fault) : Obstacle :=
  { place.obstruct fault with late := true }

def Place.obstructEnd (place : Place) (fault : Fault) : Obstacle :=
  place.obstructLate ((place.brackets.head?.map fun b => .neverClosed b.pair).getD fault)

/-- The place behind a backslash that hides the line end behind it, and the text there. -/
def Place.behindBackslash (place : Place) : Text → Except Obstacle (Place × Text)
  | ['\n'] => .error (place.obstructEnd .nothingBehindBackslash)
  | '\n' :: rest => .ok ({ place with line := place.line + 1 }, rest)
  | _ => .error (place.obstructLate .strayBackslash)

/-- The indentation of a line, the place behind it and the text there. A form feed begins it
anew. If a backslash hides a line end, its own column counts unless it is the first one. Each
round reads a character. -/
def readIndentation (sum : Indentation) (fixed : Nat) :
    Nat → Place → Text → Except Obstacle (Indentation × Place × Text)
  | 0, place, text => .ok (sum, place, text)
  | rounds + 1, place, text =>
    match text with
    | ' ' :: rest => readIndentation ⟨sum.columns + 1, sum.narrow + 1⟩ fixed rounds place rest
    | '\t' :: rest =>
      readIndentation ⟨(sum.columns / 8 + 1) * 8, sum.narrow + 1⟩ fixed rounds place rest
    | '\x0c' :: rest => readIndentation {} fixed rounds place rest
    | '\\' :: rest => do
      let (place, rest) ← place.behindBackslash rest
      readIndentation sum (if fixed = 0 then sum.columns else fixed) rounds place rest
    | _ => .ok (if fixed = 0 then sum else ⟨fixed, fixed⟩, place, text)

/-- Close the indentations that are deeper than the given one. -/
def closeIndents (given : Indentation) : List Indentation → Nat × List Indentation
  | [] => (0, [])
  | last :: below =>
    if given.columns < last.columns then
      let (closed, left) := closeIndents given below
      (closed + 1, left)
    else (0, last :: below)

/-- The tokens that a change of the indentation gives, and the open indentations after it. -/
def changeIndent (given : Indentation) (opened : List Indentation) :
    Except Fault (List Token × List Indentation) :=
  let last := opened.headD {}
  if given.columns = last.columns then
    if given.narrow = last.narrow then .ok ([], opened) else .error .mixedIndent
  else if last.columns < given.columns then
    if last.narrow < given.narrow then .ok ([.indent], given :: opened) else .error .mixedIndent
  else
    let (closed, left) := closeIndents given opened
    let last := left.headD {}
    if given.columns ≠ last.columns then .error .unmatchedDedent
    else if given.narrow ≠ last.narrow then .error .mixedIndent
    else .ok (List.replicate closed .dedent, left)

def isBareLine (text : Text) : Bool :=
  text.head? = some '#' || text.head? = some '\n'

def isSeparator (c : Char) : Bool :=
  c = ' ' || c = '\t' || c = '\x0c'

/-- The tokens of a text from a place on. Each round reads a character or begins a line, so
twice as many rounds as characters are enough. -/
def tokensFrom : Nat → Place → Text → List Lexeme × Option Obstacle
  | 0, _, _ => ([], none)
  | rounds + 1, place, text =>
    let give (token : Token) (place next : Place) (rest : Text) :=
      let (lexemes, obstacle) := tokensFrom rounds next rest
      let isQuoted :=
        match token with
        | .quoted _ => true
        | _ => false
      (⟨token, next.brackets.length, place.line, rest.isEmpty && !isQuoted⟩ :: lexemes, obstacle)
    if place.fresh then
      match readIndentation {} 0 text.length { place with fresh := false } text with
      | .error obstacle => ([], some obstacle)
      | .ok (indentation, place, rest) =>
        if isBareLine rest then
          match rest.dropWhile (· != '\n') with
          | [] => tokensFrom rounds place []
          | _ :: rest =>
            tokensFrom rounds { place with line := place.line + 1, fresh := true } rest
        else if !place.brackets.isEmpty then tokensFrom rounds place rest
        else
          match changeIndent indentation place.indents with
          | .error fault => ([], some (place.obstructLate fault))
          | .ok (tokens, indents) =>
            let (lexemes, obstacle) := tokensFrom rounds { place with indents } rest
            (tokens.map (⟨·, 0, place.line, false⟩) ++ lexemes, obstacle)
    else
      match text with
      | [] =>
        if place.brackets.isEmpty then ([⟨.finish, 0, place.line, true⟩], none)
        else ([], some (place.obstructEnd .malformed))
      | c :: rest =>
        if isSeparator c then tokensFrom rounds place rest
        else if c = '#' then tokensFrom rounds place (rest.dropWhile (· != '\n'))
        else if c = '\n' then
          let next := { place with line := place.line + 1, fresh := true }
          if place.brackets.isEmpty then give .lineEnd place next rest
          else tokensFrom rounds next rest
        else if c = '\\' then
          match place.behindBackslash rest with
          | .error obstacle => ([], some obstacle)
          | .ok (place, rest) => tokensFrom rounds place rest
        else
          let found : Except Fault (Token × Text) :=
            if c = '"' || c = '\'' then readQuoted [] place.line c rest
            else if inWord c && !c.isDigit then readWord place.line (c :: rest)
            else if c.isDigit || (c = '.' && rest.head?.any Char.isDigit) then do
              let (number, rest) ← readNumeral (c :: rest)
              return (.number number, rest)
            else
              match longMarks.find? fun mark => mark.toList.isPrefixOf (c :: rest) with
              | some mark => .ok (.mark mark, (c :: rest).drop mark.length)
              | none =>
                if isPrintable c then .ok (.mark (String.singleton c), rest)
                else .error (.invalidCharacter c)
          match found with
          | .error fault => ([], some (place.obstruct fault))
          | .ok (token, after) =>
            match bracketsBehind place.brackets place.line c with
            | .error fault => ([], some (place.obstruct fault))
            | .ok brackets =>
              let read := rest.take (rest.length - after.length)
              give token place { place with line := place.line + lineEnds read, brackets } after

def tokens (text : Text) : Tokens :=
  let (lexemes, obstacle) := tokensFrom (2 * text.length + 2) {} text
  { lexemes := lexemes.toArray, obstacle }

end DiagnosticMarkers.Report.Parameters
