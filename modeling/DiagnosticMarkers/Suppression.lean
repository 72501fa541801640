import DiagnosticMarkers.Document
import DiagnosticMarkers.Log
import DiagnosticMarkers.Group
import DiagnosticMarkers.Text.Case
import DiagnosticMarkers.Text.Word

/-!
# Suppressed markers

A line is suppressed by a number sign that is followed, on the same line, by a suppression
token. The token stands between two word boundaries and is compared without case.

Tokens that differ in their last letter alone are looked up in a set of letters, in lower case.
In that set letters beyond the basic plane stand as they are written, so a capital letter
there is never met.

The source line of each marker is read once, in order and under the lock. A marker goes if
its line has a suppression comment; it stays if the line cannot be read.
-/

namespace DiagnosticMarkers.Suppression

open Text

def defaultTokens : List Text := ["noqa".toList]

/-- Does the text begin with the token, with a word boundary behind it? `before` is the
character in front of the text. -/
def beginsWith : Text → Option Char → Text → Bool
  | [], before, text => isBoundary before text.head?
  | _ :: _, _, [] => false
  | t :: token, _, c :: text => sameCaseless t c && beginsWith token (some c) text

/-- Does one of the tokens stand at the start of the text, between word boundaries? -/
def tokenAt (tokens : List Text) (before : Option Char) (text : Text) : Bool :=
  isBoundary before text.head? && tokens.any fun token => beginsWith token before text

/-- The length of the longest beginning that a text shares with all the others. -/
def sharedLength : Text → List Text → Nat
  | [], _ => 0
  | c :: text, others =>
    if others.all fun other => other.head? == some c then
      sharedLength text (others.map List.tail) + 1
    else 0

/-- Do the tokens agree but for one letter at the end of each? -/
def differInLastLetter : List Text → Bool
  | [] => false
  | token :: tokens =>
    let shared := sharedLength token tokens
    (token :: tokens).all fun other => other.length == shared + 1

def isHighCapital (c : Char) : Bool :=
  0xFFFF < c.toNat && caselessKey c != c

/-- The tokens that can be met in a comment. -/
def effectiveTokens (tokens : List Text) : List Text :=
  if differInLastLetter tokens then
    tokens.filter fun token => !token.getLast?.any isHighCapital
  else tokens

/-- Is a comment still open after this character? A number sign opens it and a newline ends
it. -/
def openAfter (isOpen : Bool) (c : Char) : Bool :=
  c == '#' || (isOpen && c != '\n')

/-- Is there a token at the start or further on in the text, while a comment is open? -/
def search (tokens : List Text) (isOpen : Bool) (before : Option Char) : Text → Bool
  | [] => isOpen && tokenAt tokens before []
  | c :: text =>
    (isOpen && tokenAt tokens before (c :: text)) ||
      search tokens (openAfter isOpen c) (some c) text

def hasComment (line : Text) (tokens : List Text) : Bool :=
  search (effectiveTokens tokens) false none line

/-! ## Leaving out suppressed markers -/

variable {σ : Type}

/-- The markers that stay, with the events on the way. -/
structure Kept where
  markers : List Marker
  events : List Event

/-- What the source line of a marker says about it. -/
def judge (tokens : List Text) (marker : Marker) : Except LineError Text → Kept
  | .error fault => ⟨[marker], [.unreadableLine marker.location.line fault.message]⟩
  | .ok line =>
    if hasComment line tokens then ⟨[], [.suppressed marker.location.line]⟩
    else ⟨[marker], []⟩

/-- Read the source lines of the markers and keep those that are not suppressed. -/
def collect (document : Document σ) (tokens : List Text) :
    List Marker → σ → Visit σ Kept
  | [], state => ⟨⟨[], []⟩, state, []⟩
  | marker :: markers, state =>
    let (answer, next) := document.line marker.location.line state
    let kept := judge tokens marker answer
    let rest := collect document tokens markers next
    { result := ⟨kept.markers ++ rest.result.markers, kept.events ++ rest.result.events⟩
      state := rest.state
      accesses := .read marker.location.line :: rest.accesses }

def filter (document : Document σ) (tokens : List Text) (markers : List Marker) :
    σ → Visit σ Kept :=
  document.synchronized (collect document tokens markers)

end DiagnosticMarkers.Suppression
