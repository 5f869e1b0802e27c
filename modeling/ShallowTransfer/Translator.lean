import ShallowTransfer.Chunking.Chunker
import ShallowTransfer.Lexical.Dictionary
import ShallowTransfer.Reordering.Transfer
import ShallowTransfer.Tagging.Tagger
import ShallowTransfer.Text.Sentences

/-!
The translator takes a sentence through four stages: it tags the words, groups them into chunks,
reorders chunks and tokens, and puts forms of the target language in place of the words.
-/

namespace ShallowTransfer

/-- The stages a sentence is taken through. -/
structure Translator where
  tagger : Tagger
  chunker : Chunker
  transfer : SyntacticTransfer
  dictionary : Dictionary

/-- A sentence in the target language: the chunked source, the reordered tree and the target words in
the order of its tokens. -/
structure Rendition where
  source : ShallowTree
  tree : ShallowTree
  words : List TargetWord
deriving Repr, DecidableEq

/-- The target words as text. -/
def Rendition.text (t : Rendition) : String :=
  Text.joinWords (t.words.map TargetWord.text)

namespace Translator

/-- Takes tokens through all stages. -/
def stages (t : Translator) (tokens : List Token) : Except InvariantError Rendition := do
  let source ← t.chunker.chunk (t.tagger.tag tokens)
  let tree ← t.transfer.transfer source
  .ok ⟨source, tree, t.dictionary.transfer tree⟩

/-- The words of tokens as one text. -/
def sentenceText (tokens : List Token) : String :=
  " ".intercalate (tokens.map Token.text)

/-- Translates the tokens of a sentence. -/
def translateTokens (t : Translator) (tokens : List Token) : Except Error Rendition :=
  match t.stages tokens with
  | .ok rendition => .ok rendition
  | .error e => .error (.sentence (sentenceText tokens) e)

/-- The tokens of a sentence. -/
def tokenize (sentence : String) : List Token :=
  tokensFrom (Text.splitWords sentence)

/-- Translates a sentence. -/
def translateSentence (t : Translator) (sentence : String) : Except Error Rendition :=
  t.translateTokens (tokenize sentence)

/-- Translates sentences one by one. -/
def translateBatch (t : Translator) (sentences : List String) : List (Except Error Rendition) :=
  sentences.map t.translateSentence

/-- Translates all sentences of a text. -/
def translate (t : Translator) (text : String) : Except Error (List Rendition) :=
  (Text.sentences text).mapM t.translateSentence

/-- What is reported of a sentence that a stage fails on. -/
def failureRecord (tokens : List Token) (e : InvariantError) : Record :=
  ⟨.error, "Failed to translate \"" ++ sentenceText tokens ++ "\": " ++ e.message⟩

/-- What is reported while the tokens of a sentence are translated. -/
def journalTokens (t : Translator) (tokens : List Token) : Journal :=
  t.tagger.journal tokens ++
    match t.chunker.chunk (t.tagger.tag tokens) with
    | .error e => [failureRecord tokens e]
    | .ok source =>
      t.transfer.journal source ++
        match t.transfer.transfer source with
        | .error e => [failureRecord tokens e]
        | .ok tree => t.dictionary.journal tree

/-- What is reported while a sentence is translated. -/
def journalSentence (t : Translator) (sentence : String) : Journal :=
  t.journalTokens (tokenize sentence)

/-- What is reported while a text is translated. -/
def journal (t : Translator) (text : String) : Journal :=
  (Text.sentences text).flatMap t.journalSentence

end Translator

end ShallowTransfer
