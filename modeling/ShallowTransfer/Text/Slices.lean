import ShallowTransfer.Text.Words

/-!
Words as slices. A text can only be sliced at byte positions where characters begin or end. To find
its words, every part between white space is gone through once, with the position where the word at
hand starts: a splitting character ends that word, is sliced out as a word of its own, and the next
word starts behind it. What is left at the end of the part is its last word.
-/

namespace ShallowTransfer.Text

/-- The text between two byte positions. There is none if one of them lies inside a character or
behind the end of the text, or if they are in the wrong order. -/
def slice? (s : String) (start stop : String.Pos.Raw) : Option String :=
  if start ≤ stop && start.isValid s && stop.isValid s then
    some (String.Pos.Raw.extract s start stop)
  else none

/-- The words so far, with the text between two positions as one more word unless it is empty. -/
def pushSlice (s : String) (words : List String) (start stop : String.Pos.Raw) :
    Option (List String) :=
  if start < stop then (slice? s start stop).map fun word => words ++ [word] else some words

/-- Characters with the positions where they begin. -/
def charIndices (i : String.Pos.Raw) : List Char → List (String.Pos.Raw × Char)
  | [] => []
  | c :: cs => (i, c) :: charIndices (i + c) cs

/-- The position where the word at hand starts, and the words before it. -/
structure Scan where
  start : String.Pos.Raw
  words : List String

/-- The scan behind one more character. -/
def Scan.step (part : String) (scan : Scan) (entry : String.Pos.Raw × Char) : Option Scan :=
  if isSplitting entry.2 then do
    let words ← pushSlice part scan.words scan.start entry.1
    let mark ← slice? part entry.1 (entry.1 + entry.2)
    some ⟨entry.1 + entry.2, words ++ [mark]⟩
  else some scan

/-- The words of a scan at the end of its part. -/
def Scan.close (part : String) (scan : Scan) : Option (List String) :=
  pushSlice part scan.words scan.start part.rawEndPos

/-- The words so far and those of one more part. -/
def slicePart (words : List String) (part : String) : Option (List String) := do
  let scan ← (charIndices 0 part.toList).foldlM (Scan.step part) ⟨0, words⟩
  scan.close part

/-- The parts of a text between white space. -/
def blankSeparated (s : String) : List String :=
  ((s.toList.splitOnP isBlank).filter fun part => !part.isEmpty).map String.ofList

/-- The words of a text as slices, unless the text is sliced inside a character. -/
def sliceWords (s : String) : Option (List String) :=
  (blankSeparated s).foldlM slicePart []

end ShallowTransfer.Text
