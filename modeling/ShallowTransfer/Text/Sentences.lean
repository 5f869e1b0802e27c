import ShallowTransfer.Text.Property.Alphabetic
import ShallowTransfer.Text.Property.Lowercase
import ShallowTransfer.Text.Property.Number
import ShallowTransfer.Text.Property.SentencePunctuation
import ShallowTransfer.Text.Property.Titlecase
import ShallowTransfer.Text.Property.Transparent
import ShallowTransfer.Text.Property.Uppercase
import ShallowTransfer.Text.Words

/-!
Sentences of a text. Every character has a kind, and whether a sentence ends before a character is
decided by its kind and by the trail of kinds on its left, where brackets and blanks in a row count
once and combining marks not at all. A full stop ends a sentence unless a lower case letter comes
next, a capital follows it at once after another letter, or a digit follows it at once.
-/

namespace ShallowTransfer.Text

/-- What a character means for sentence boundaries. -/
inductive BreakKind where
  | carriageReturn
  | lineFeed
  | separator
  | transparent
  | blank
  | lower
  | upper
  | otherLetter
  | numeral
  | fullStop
  | terminator
  | continuer
  | closer
  | other
deriving Repr, DecidableEq

/-- The letters of the Georgian script that are lower case but have no title case. The modifier
letter among them counts as lower case. -/
def georgianLetters : List CharRun := [⟨0x10D0, 0x10FA, 1⟩, ⟨0x10FD, 0x10FF, 1⟩]

/-- The capital letters of the Georgian script, which do not begin sentences. -/
def georgianCapitals : List CharRun := [⟨0x1C90, 0x1CBF, 1⟩]

/-- The line ends other than carriage return and line feed. -/
def separators : List Char :=
  [Char.ofNat 0x85, Char.ofNat 0x2028, Char.ofNat 0x2029]

/-- The punctuation mark geresh, which counts as a letter. -/
def geresh : Char := Char.ofNat 0x5F3

/-- The kind of a character. -/
def breakKind (c : Char) : BreakKind :=
  if c = '\r' then .carriageReturn
  else if c = '\n' then .lineFeed
  else if separators.contains c then .separator
  else if isTransparent c then .transparent
  else if isBlank c then .blank
  else if isLower c && !inRuns georgianLetters c then .lower
  else if (isUpper c || isTitle c) && !inRuns georgianCapitals c then .upper
  else if isNumeral c then .numeral
  else if isAlphabetic c || c = geresh then .otherLetter
  else if isFullStop c then .fullStop
  else if isTerminator c then .terminator
  else if isContinuer c then .continuer
  else if isCloser c then .closer
  else .other

/-- The kinds of the characters on the left, nearest first, where closers and blanks in a row count
once. Empty only at the start of the text. -/
abbrev Trail := List BreakKind

namespace Trail

/-- The trail with one more character. -/
def push (trail : Trail) (k : BreakKind) : Trail :=
  match k, trail with
  | .closer, .closer :: _ => trail
  | .blank, .blank :: _ => trail
  | _, _ => k :: trail

/-- Whether the nearest character ends a line. -/
def endsLine : Trail → Bool
  | .carriageReturn :: _ => true
  | .lineFeed :: _ => true
  | .separator :: _ => true
  | _ => false

/-- The trail without the line end at its near end. -/
def dropLineEnd (trail : Trail) : Trail :=
  if trail.endsLine then trail.tail else trail

/-- The trail without the given kind at its near end. -/
def dropKind (trail : Trail) (k : BreakKind) : Trail :=
  if trail.head? = some k then trail.tail else trail

/-- Whether the nearest character is a full stop. -/
def endsInFullStop (trail : Trail) : Bool :=
  trail.head? = some .fullStop

/-- Whether the nearest character is a full stop or another mark that ends sentences. -/
def endsInTerminator (trail : Trail) : Bool :=
  trail.head? = some .fullStop || trail.head? = some .terminator

end Trail

/-- A character and its kind. -/
structure Marked where
  char : Char
  kind : BreakKind

/-- The kinds that decide whether a full stop ends an abbreviation or a sentence. -/
def BreakKind.decides : BreakKind → Bool
  | .transparent => false
  | .blank => false
  | .numeral => false
  | .continuer => false
  | .closer => false
  | .other => false
  | _ => true

/-- Whether a lower case letter is the first of the characters that decide. -/
def goesOnInLower (ahead : List Marked) : Bool :=
  match ahead.find? fun m => m.kind.decides with
  | some m => m.kind = .lower
  | none => false

/-- The kinds before which a sentence goes on after a full stop inside of a word or number. -/
def staysInWord (trail : Trail) (k : BreakKind) : Bool :=
  match k, trail with
  | .numeral, .fullStop :: _ => true
  | .upper, .fullStop :: .upper :: _ => true
  | .upper, .fullStop :: .lower :: _ => true
  | _, _ => false

/-- The kinds that stay with a terminator and the closers after it. -/
def staysWithCloser : BreakKind → Bool
  | .closer => true
  | .blank => true
  | .separator => true
  | .carriageReturn => true
  | .lineFeed => true
  | _ => false

/-- The kinds that stay with a terminator, the closers and the blanks after it. -/
def staysWithBlank : BreakKind → Bool
  | .blank => true
  | .separator => true
  | .carriageReturn => true
  | .lineFeed => true
  | _ => false

/-- The kinds that carry a sentence on after a terminator, its closers and blanks. -/
def carriesOn : BreakKind → Bool
  | .continuer => true
  | .terminator => true
  | .fullStop => true
  | _ => false

/-- Whether a sentence ends between the trail and the character of kind `k`, which is the first of
`ahead`. -/
def breaksBefore (trail : Trail) (k : BreakKind) (ahead : List Marked) : Bool :=
  let bare := (trail.dropKind .blank).dropKind .closer
  if k = .lineFeed && trail.head? = some .carriageReturn then false
  else if trail.endsLine then true
  else if k = .transparent then false
  else if staysInWord trail k then false
  else if Trail.endsInFullStop bare && goesOnInLower ahead then false
  else if carriesOn k && Trail.endsInTerminator bare then false
  else if staysWithCloser k && Trail.endsInTerminator (trail.dropKind .closer) then false
  else if staysWithBlank k && Trail.endsInTerminator bare then false
  else Trail.endsInTerminator
    (Trail.dropKind (Trail.dropKind trail.dropLineEnd .blank) .closer)

/-- The trail behind a character: a transparent one leaves no mark, except at the start of a line. -/
def Trail.after (trail : Trail) (k : BreakKind) : Trail :=
  if k = .transparent && !trail.isEmpty && !trail.endsLine then trail else trail.push k

/-- The sentences of a text that goes on behind the trail; the first one is the rest of a sentence
begun before. -/
def sentencesAfter : Trail → List Marked → List (List Char)
  | _, [] => [[]]
  | trail, m :: rest =>
    let joined := match sentencesAfter (trail.after m.kind) rest with
      | [] => [[m.char]]
      | s :: ss => (m.char :: s) :: ss
    if !trail.isEmpty && breaksBefore trail m.kind (m :: rest) then [] :: joined else joined

/-- Whether a character is a letter or a number sign. -/
def isAlphanumeric (c : Char) : Bool :=
  isAlphabetic c || isNumber c

/-- The sentences of a text that hold a letter or a number, without white space at their ends. -/
def sentences (s : String) : List String :=
  let parts := sentencesAfter [] (s.toList.map fun c => ⟨c, breakKind c⟩)
  (parts.filter fun p => p.any isAlphanumeric).map fun p => String.ofList (trimChars p)

end ShallowTransfer.Text
