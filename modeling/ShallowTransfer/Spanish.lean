import ShallowTransfer.Chunking.Chunker
import ShallowTransfer.Lexical.Dictionary
import ShallowTransfer.Reordering.Transfer
import ShallowTransfer.Tagging.Learner

/-!
The defaults for Spanish with EAGLES tags, where `ncfs000` is a feminine singular common noun. The
chunk grammar and the syntactic rules describe tags by their lower case category.
-/

namespace ShallowTransfer.Spanish

/-- All templates, up to 200 rules, each of which has to correct something. -/
def learnerOptions : LearnerOptions := ⟨Template.all, 1, 200⟩

/-- Unknown words get a tag of their own. -/
def lexiconOptions : LexiconOptions := ⟨"UNK", true⟩

/-- Target forms take over capitals. -/
def dictionaryOptions : DictionaryOptions := ⟨true⟩

/-- The matchers of tags that begin with one of the letters. -/
def stems (letters : List String) : List TagMatcher :=
  letters.map TagMatcher.stem

/-- Noun, verb, prepositional, adjective and adverb phrases, in this priority. -/
def chunkGrammar : ChunkGrammar := ⟨[
  ⟨.nounPhrase, stems ["d", "n", "p", "z"], stems ["n", "a", "z"], none⟩,
  ⟨.verbPhrase, stems ["v"], stems ["v"], none⟩,
  ⟨.prepositionalPhrase, stems ["s"], stems ["d", "n", "a", "z"], none⟩,
  ⟨.adjectivePhrase, stems ["a"], stems ["a"], none⟩,
  ⟨.adverbPhrase, stems ["r"], stems ["r"], none⟩]⟩

/-- The chunker for Spanish. -/
def chunker : Chunker := ⟨chunkGrammar, rfl⟩

/-- The kinds of chunks with nouns or adjectives. -/
def nominal : List ChunkKind := [.nounPhrase, .prepositionalPhrase, .adjectivePhrase]

/-- Two adjectives go in front of the noun they follow. -/
def nounAdjectiveAdjective : SyntacticRule :=
  ⟨"noun-adjective-adjective", .tokens (stems ["n", "a", "a"]), [1, 2, 0], nominal, false, rfl⟩

/-- An adjective goes in front of the noun it follows. -/
def nounAdjective : SyntacticRule :=
  ⟨"noun-adjective", .tokens (stems ["n", "a"]), [1, 0], nominal, false, rfl⟩

/-- Adjectives go in front of the noun they follow. -/
def syntacticTransfer : SyntacticTransfer := ⟨[nounAdjectiveAdjective, nounAdjective]⟩

end ShallowTransfer.Spanish
