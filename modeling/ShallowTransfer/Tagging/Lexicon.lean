import ShallowTransfer.OrderedMap
import ShallowTransfer.Tag.TagSet
import ShallowTransfer.Tree

/-!
The lexicon: the most likely tag of every known word, which is the first guess of a tagger. A
lexicon made from a tagged corpus gives each word the tag it has most often there, and of equally
frequent tags the one that comes first in code point order.
-/

namespace ShallowTransfer

/-- Tagged sentences: words with their tags. -/
abbrev Corpus := List (List (String × Tag))

/-- The options of a lexicon: the tag of unknown words, and whether a word that is written with
capitals is looked up in lower case too. -/
structure LexiconOptions where
  fallbackTag : Tag
  lowercaseLookup : Bool
deriving Repr, DecidableEq

/-- The options that hold where nothing else is said. -/
def LexiconOptions.default : LexiconOptions := ⟨"UNK", true⟩

/-- The most likely tags of the known words. -/
structure Lexicon where
  tagSet : TagSet
  words : OrderedMap String TagId
  options : LexiconOptions
deriving Repr, DecidableEq

namespace Lexicon

/-- The order of words with tags: by word, then by the number of the tag. -/
def entryLe (a b : String × TagId) : Bool :=
  textBefore a.1 b.1 || (a.1 = b.1 && Nat.ble a.2.toNat b.2.toNat)

/-- The number of the tag of an entry. -/
def resolve (tagSet : TagSet) (entry : String × Tag) : Except Error (String × TagId) :=
  match tagSet.id? entry.2 with
  | some id => .ok (entry.1, id)
  | none => .error (.unknownTag entry.2)

/-- The lexicon with the given words. Of several tags of one word the last in the tag set counts. -/
def ofEntries (tagSet : TagSet) (entries : List (String × Tag)) (options : LexiconOptions) :
    Except Error Lexicon := do
  let numbered ← entries.mapM (resolve tagSet)
  .ok ⟨tagSet, OrderedMap.ofList (numbered.mergeSort entryLe), options⟩

/-- How often each of several things occurs, in the order of their first occurrence. -/
abbrev Tally (α : Type) := OrderedMap α Nat

/-- Counts one more occurrence. -/
def Tally.count {α : Type} [DecidableEq α] (t : Tally α) (a : α) : Tally α :=
  t.alter a fun n => n.getD 0 + 1

/-- Counts one more occurrence of a word with a tag. -/
def countWord (counts : OrderedMap String (Tally Tag)) (entry : String × Tag) :
    OrderedMap String (Tally Tag) :=
  counts.alter entry.1 fun t => (t.getD OrderedMap.empty).count entry.2

/-- How often each word of a corpus has each tag. -/
def tagCounts (corpus : Corpus) : OrderedMap String (Tally Tag) :=
  corpus.flatten.foldl countWord OrderedMap.empty

/-- The better of two tags with their counts: the more frequent one, then the first by name. -/
def moreFrequent (a b : Tag × Nat) : Tag × Nat :=
  if a.2 < b.2 then b else if b.2 < a.2 then a else if textBefore b.1 a.1 then b else a

/-- The most frequent tag of a tally. -/
def mostFrequent? (t : Tally Tag) : Option Tag :=
  match t.entries with
  | [] => none
  | e :: rest => some (rest.foldl moreFrequent e).1

/-- The lexicon that a corpus shows. -/
def ofCorpus (corpus : Corpus) (options : LexiconOptions) : Except Error Lexicon :=
  let counts := tagCounts corpus
  let tags := counts.entries.flatMap fun e => e.2.keys
  match TagSet.build tags options.fallbackTag with
  | .error e => .error (.config e)
  | .ok tagSet =>
    let entries := counts.entries.filterMap fun e => (mostFrequent? e.2).map fun t => (e.1, t)
    ofEntries tagSet entries options

/-- The number of the most likely tag of a word, and whether the word is known. A word that is
written with capitals falls back on its lower case form. -/
def lookup (lexicon : Lexicon) (word : String) : TagId × Origin :=
  match lexicon.words.get? word with
  | some id => (id, .lexicon)
  | none =>
    let lower := Text.lowercase word
    if lexicon.options.lowercaseLookup && (Text.isTitleCase word || Text.isUppercase word) &&
        lower ≠ word then
      match lexicon.words.get? lower with
      | some id => (id, .lexicon)
      | none => (TagSet.fallback, .fallback)
    else (TagSet.fallback, .fallback)

/-- The number of known words. -/
def size (lexicon : Lexicon) : Nat :=
  lexicon.words.size

end Lexicon

end ShallowTransfer
