import ShallowTransfer.Text.Property.Blank

/-!
Words of a text. Splitting cuts a text at white space and around splitting characters, which become
words of their own; joining puts single blanks between words, but none before punctuation that
attaches to the word on its left. Splitting loses nothing but white space (`flatten_splitChars`).
-/

namespace ShallowTransfer.Text

/-- The text without the white space at its ends. -/
def trimChars (cs : List Char) : List Char :=
  ((cs.dropWhile isBlank).reverse.dropWhile isBlank).reverse

/-- The text without the white space at its ends. -/
def trim (s : String) : String :=
  String.ofList (trimChars s.toList)

/-- Whether a text holds nothing but white space. -/
def isBlankText (s : String) : Bool :=
  s.toList.all isBlank

/-- The typewriter apostrophe. -/
def apostrophe : Char := Char.ofNat 0x27

/-- The characters that are words of their own. -/
def splittingChars : List Char :=
  ['«', '»', apostrophe, '’', '`', '´', '‘', ']', ',', '.', ':', ';', '!', '?', '¡', '¿', '/', '\\',
    '(', ')', '<', '=', '>', '„', '“', '”', '"', '+', '#', '…', '*']

/-- Whether a character is a word of its own. -/
def isSplitting (c : Char) : Bool :=
  splittingChars.contains c

/-- The punctuation that attaches to the word on its left. -/
def attachingChars : List Char :=
  [',', '.', ';', ':', '!', '?']

/-- A text cut into words: the word at its very front, which a further character may extend, and
the words behind it. -/
structure Cut where
  front : List Char
  words : List (List Char)

/-- All words of the cut. -/
def Cut.close (c : Cut) : List (List Char) :=
  if c.front.isEmpty then c.words else c.front :: c.words

/-- Cuts a text from its end to its front. -/
def cut : List Char → Cut
  | [] => ⟨[], []⟩
  | c :: cs =>
    let rest := cut cs
    if isBlank c then ⟨[], rest.close⟩
    else if isSplitting c then ⟨[], [c] :: rest.close⟩
    else ⟨c :: rest.front, rest.words⟩

/-- The words of a text, from left to right. -/
def splitChars (cs : List Char) : List (List Char) :=
  (cut cs).close

/-- Closing a cut keeps its characters. -/
theorem Cut.flatten_close (c : Cut) : c.close.flatten = c.front ++ c.words.flatten := by
  rw [Cut.close]
  split
  · next h => rw [List.isEmpty_iff.mp h, List.nil_append]
  · rw [List.flatten_cons]

/-- A cut holds all characters of the text but its white space. -/
theorem front_append_words_cut :
    ∀ cs, (cut cs).front ++ (cut cs).words.flatten = cs.filter fun c => !isBlank c
  | [] => rfl
  | c :: cs => by
    have ih := front_append_words_cut cs
    rw [cut]
    by_cases hb : isBlank c = true
    · rw [if_pos hb, List.filter_cons_of_neg (by rw [hb]; decide), List.nil_append,
        Cut.flatten_close, ih]
    · rw [if_neg hb, List.filter_cons_of_pos (by rw [Bool.not_eq_true] at hb; rw [hb]; rfl), ← ih]
      split
      · rw [List.nil_append, List.flatten_cons, Cut.flatten_close, List.singleton_append]
      · rw [List.cons_append]

/-- The words are the text without its white space. -/
theorem flatten_splitChars (cs : List Char) :
    (splitChars cs).flatten = cs.filter fun c => !isBlank c := by
  rw [splitChars, Cut.flatten_close, front_append_words_cut]

/-- The words of a text, from left to right. -/
def splitWords (s : String) : List String :=
  (splitChars s.toList).map String.ofList

/-- Whether a word attaches to the word on its left. -/
def attaches : List Char → Bool
  | [] => false
  | c :: _ => attachingChars.contains c

/-- The text so far, with one more word. -/
def appendWord (text word : List Char) : List Char :=
  if text.isEmpty || attaches word then text ++ word else text ++ ' ' :: word

/-- The words as a text. -/
def joinChars (words : List (List Char)) : List Char :=
  words.foldl appendWord []

/-- The words as a text. -/
def joinWords (words : List String) : String :=
  String.ofList (joinChars (words.map String.toList))

end ShallowTransfer.Text
