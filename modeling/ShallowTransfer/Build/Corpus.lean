import ShallowTransfer.Build.Lines
import ShallowTransfer.Tagging.Lexicon

/-!
Files of words with tags. Every line holds a word and its tag; in a corpus blank lines separate the
sentences, in a lexicon they mean nothing.
-/

namespace ShallowTransfer.Build

/-- What a line of a corpus or a lexicon should look like. -/
def pairMessage : String := "expected `word<TAB>tag`"

/-- The word and the tag on a line. -/
def Line.pair (path : String) (l : Line) : Except Error (String × Tag) :=
  match l.columns with
  | [word, tag] =>
    if word.isEmpty || tag.isEmpty then .error (l.error path pairMessage)
    else .ok (String.ofList word, String.ofList tag)
  | _ => .error (l.error path pairMessage)

/-- A sentence in front of others, unless it has no words. -/
def addSentence (sentence : List (String × Tag)) (corpus : Corpus) : Corpus :=
  if sentence.isEmpty then corpus else sentence :: corpus

/-- The sentence that the first lines go on with, and the sentences behind it. -/
def sentencesOf (path : String) : List Line → Except Error (List (String × Tag) × Corpus)
  | [] => .ok ([], [])
  | l :: rest =>
    if l.isBlank then do
      let (sentence, corpus) ← sentencesOf path rest
      .ok ([], addSentence sentence corpus)
    else do
      let entry ← l.pair path
      let (sentence, corpus) ← sentencesOf path rest
      .ok (entry :: sentence, corpus)

/-- Reads a corpus. -/
def parseCorpus (text path : String) : Except Error Corpus := do
  let (sentence, corpus) ← sentencesOf path (lines text)
  .ok (addSentence sentence corpus)

/-- Reads a lexicon. -/
def parseLexicon (text path : String) : Except Error (List (String × Tag)) :=
  ((lines text).filter fun l => !l.isBlank).mapM (Line.pair path)

end ShallowTransfer.Build
