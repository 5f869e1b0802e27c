import ShallowTransfer.Text.Property.CaseIgnorable
import ShallowTransfer.Text.Property.Lowercase
import ShallowTransfer.Text.Property.LowerMapping
import ShallowTransfer.Text.Property.Titlecase
import ShallowTransfer.Text.Property.Uppercase
import ShallowTransfer.Text.Property.UpperMapping

/-!
Case of words. Lower and upper case forms are the full ones: a character may turn into several, and
a capital sigma at the end of a word turns into the final small sigma. Whether a word is title case
or upper case is read off its characters.
-/

namespace ShallowTransfer.Text

/-- The characters at the code points. -/
def ofCodePoints (points : List Nat) : List Char :=
  points.map Char.ofNat

/-- The lower case form of a single character, in any place but that of a sigma. -/
def lowerChar (c : Char) : List Char :=
  match lowerExpansions.lookup c.toNat with
  | some points => ofCodePoints points
  | none => [shiftCase lowerShifts c]

/-- The upper case form of a single character. -/
def upperChar (c : Char) : List Char :=
  match upperExpansions.lookup c.toNat with
  | some points => ofCodePoints points
  | none => [shiftCase upperShifts c]

/-- Whether a character is a letter with case. -/
def isCased (c : Char) : Bool :=
  isLower c || isUpper c || isTitle c

/-- Whether the nearest character that is not skipped is a letter with case. -/
def meetsCased (cs : List Char) : Bool :=
  match cs.dropWhile isCaseIgnorable with
  | [] => false
  | c :: _ => isCased c

/-- The capital sigma, whose small form depends on its place. -/
def capitalSigma : Char := 'Σ'

/-- The small form of a sigma between the characters before it, nearest first, and those after it:
it is final when a letter goes before it and none follows. -/
def smallSigma (before after : List Char) : Char :=
  if meetsCased before && !meetsCased after then 'ς' else 'σ'

/-- The lower case form of a text that goes on after the characters `before`, nearest first. -/
def lowerAfter : List Char → List Char → List Char
  | _, [] => []
  | before, c :: after =>
    (if c = capitalSigma then [smallSigma before after] else lowerChar c) ++
      lowerAfter (c :: before) after

/-- The lower case form of a text. -/
def lowercase (s : String) : String :=
  String.ofList (lowerAfter [] s.toList)

/-- The upper case form of a text. -/
def uppercase (s : String) : String :=
  String.ofList (s.toList.flatMap upperChar)

/-- The text with its first character in upper case. -/
def capitalize (s : String) : String :=
  match s.toList with
  | [] => ""
  | c :: cs => String.ofList (upperChar c ++ cs)

/-- Whether the first character is upper case and no other one is. -/
def isTitleCase (s : String) : Bool :=
  match s.toList with
  | [] => false
  | c :: cs => isUpper c && !cs.any isUpper

/-- Whether some character is upper case and none is lower case. -/
def isUppercase (s : String) : Bool :=
  s.toList.any isUpper && !s.toList.any isLower

end ShallowTransfer.Text
