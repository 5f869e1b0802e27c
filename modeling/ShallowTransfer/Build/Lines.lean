import ShallowTransfer.Error
import ShallowTransfer.Text.Words

/-!
Lines of tab separated files. Lines end with a line feed, and carriage returns before it do not
count. A line whose first character other than white space is `#` is a comment; comments are left
out, but they count for the numbers of the lines behind them.
-/

namespace ShallowTransfer.Build

/-- The parts of a text between the separators. -/
def splitAt (separator : Char) : List Char → List (List Char)
  | [] => [[]]
  | c :: rest =>
    if c = separator then [] :: splitAt separator rest
    else
      match splitAt separator rest with
      | [] => [[c]]
      | part :: parts => (c :: part) :: parts

/-- The list without its last element, if that is empty. -/
def dropLastEmpty : List (List Char) → List (List Char)
  | [] => []
  | [part] => if part.isEmpty then [] else [part]
  | part :: parts => part :: dropLastEmpty parts

/-- The line without carriage returns at its end. -/
def dropReturns (line : List Char) : List Char :=
  (line.reverse.dropWhile fun c => c = '\r').reverse

/-- A line with its number, counted from one. -/
structure Line where
  number : Nat
  chars : List Char
deriving Repr, DecidableEq

/-- Whether a line is a comment. -/
def isComment (chars : List Char) : Bool :=
  (chars.dropWhile Text.isBlank).head? = some '#'

/-- The lines of a text from a number on. -/
def numberFrom : Nat → List (List Char) → List Line
  | _, [] => []
  | n, chars :: rest => ⟨n, chars⟩ :: numberFrom (n + 1) rest

/-- The lines of a text that are no comments. -/
def lines (text : String) : List Line :=
  let all := numberFrom 1 ((dropLastEmpty (splitAt '\n' text.toList)).map dropReturns)
  all.filter fun l => !isComment l.chars

/-- Whether nothing but white space is on a line. -/
def Line.isBlank (l : Line) : Bool :=
  l.chars.all Text.isBlank

/-- The columns of a line without the white space around them. -/
def Line.columns (l : Line) : List (List Char) :=
  (splitAt '\t' l.chars).map Text.trimChars

/-- The error of a line in a file. -/
def Line.error (path : String) (l : Line) (message : String) : Error :=
  .parse path l.number message

end ShallowTransfer.Build
