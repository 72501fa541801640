/-!
# Text

Text is a list of characters, so that the laws of lists are laws of text. This module holds
blank characters and trimming, cutting at a separator, line breaks, decimal numerals, and classes
of characters as spans of code points in ascending order.
-/

namespace DiagnosticMarkers

/-- A text is the list of its characters. -/
abbrev Text := List Char

namespace Text

/-- The blank characters: ASCII blanks, the information separators, the next line control
and the space separators, line separator and paragraph separator of every script. -/
def isBlank (c : Char) : Bool :=
  let n := c.toNat
  (9 ≤ n && n ≤ 13) || (28 ≤ n && n ≤ 32) || n == 0x85 || n == 0xA0 || n == 0x1680
    || (0x2000 ≤ n && n ≤ 0x200A) || n == 0x2028 || n == 0x2029 || n == 0x202F
    || n == 0x205F || n == 0x3000

def dropEndWhile (cls : Char → Bool) (text : Text) : Text :=
  (text.reverse.dropWhile cls).reverse

def trimStart (text : Text) : Text :=
  text.dropWhile isBlank

def trimEnd (text : Text) : Text :=
  dropEndWhile isBlank text

/-- Drop blanks from both ends. -/
def trim (text : Text) : Text :=
  trimEnd (trimStart text)

def allBlank (text : Text) : Bool :=
  text.all isBlank

/-- The parts of a text between the occurrences of a separator. There is one part more than
separators. -/
def cutAt (separator : Char) : Text → List Text
  | [] => [[]]
  | c :: rest =>
    if c = separator then [] :: cutAt separator rest
    else
      match cutAt separator rest with
      | [] => [[c]]
      | part :: parts => (c :: part) :: parts

def joinWith (separator : Text) : List Text → Text
  | [] => []
  | [part] => part
  | part :: parts => part ++ separator ++ joinWith separator parts

theorem cutAt_ne_nil (separator : Char) (text : Text) : cutAt separator text ≠ [] := by
  cases text with
  | nil => simp [cutAt]
  | cons c rest =>
    unfold cutAt
    split
    · simp
    · split <;> simp

/-- Cutting at a separator loses nothing but the separators. -/
theorem joinWith_cutAt (separator : Char) (text : Text) :
    joinWith [separator] (cutAt separator text) = text := by
  induction text with
  | nil => rfl
  | cons c rest ih =>
    have hne := cutAt_ne_nil separator rest
    cases hparts : cutAt separator rest with
    | nil => exact absurd hparts hne
    | cons part parts =>
      rw [hparts] at ih
      by_cases h : c = separator
      · simp [cutAt, h, hparts, joinWith, ih]
      · cases parts with
        | nil => simp_all [cutAt, joinWith]
        | cons next parts => simp_all [cutAt, joinWith]

def substitute (old new : Char) (text : Text) : Text :=
  text.map fun c => if c = old then new else c

/-- The characters that end a line of output: newline, carriage return, vertical tab, form
feed, three of the information separators, next line, line and paragraph separator. -/
def isLineBreak (c : Char) : Bool :=
  let n := c.toNat
  (10 ≤ n && n ≤ 13) || (28 ≤ n && n ≤ 30) || n == 0x85 || n == 0x2028 || n == 0x2029

/-- The lines of a text without their line breaks. A carriage return and a newline together
are one break, and a break at the end begins no further line. -/
def lines : Text → List Text
  | [] => []
  | '\r' :: '\n' :: rest => [] :: lines rest
  | c :: rest =>
    if isLineBreak c then [] :: lines rest
    else
      match lines rest with
      | [] => [[c]]
      | line :: more => (c :: line) :: more

def unifyNewlines : Text → Text
  | [] => []
  | '\r' :: '\n' :: rest => '\n' :: unifyNewlines rest
  | c :: rest => (if c = '\r' then '\n' else c) :: unifyNewlines rest

/-- Does the text hold the null character, at which the system takes a text to end? -/
def holdsNull (text : Text) : Bool :=
  text.contains '\x00'

/-- Does the second text begin with the first? -/
def startsWith : Text → Text → Bool
  | [], _ => true
  | _ :: _, [] => false
  | a :: as, b :: bs => a == b && startsWith as bs

/-- Does the first text stand somewhere in the second? -/
def occursIn (part : Text) : Text → Bool
  | [] => part.isEmpty
  | c :: rest => startsWith part (c :: rest) || occursIn part rest

def ofNat (n : Nat) : Text :=
  Nat.toDigits 10 n

/-- The decimal numeral of an integer, with a minus sign if it is negative. -/
def ofInt : Int → Text
  | .ofNat n => ofNat n
  | .negSucc n => '-' :: ofNat (n + 1)

/-- The first and the last code point of an unbroken run. -/
abbrev Span := Nat × Nat

/-- Does one of the ascending spans hold the code point? -/
def inSpans : List Span → Nat → Bool
  | [], _ => false
  | (first, last) :: spans, n =>
    if n < first then false
    else if n ≤ last then true
    else inSpans spans n

end Text

end DiagnosticMarkers
