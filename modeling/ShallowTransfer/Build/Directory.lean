import ShallowTransfer.Build.Bilingual
import ShallowTransfer.Build.Corpus
import ShallowTransfer.Json.Stages
import ShallowTransfer.Spanish
import ShallowTransfer.Wire.Stages

/-!
Build directories: a directory holds a tagged corpus and a bilingual dictionary, and possibly a
lexicon and files that override the Spanish defaults. From these the binary forms of all stages are
made. The work keeps a journal, which tells how far it came when it fails.
-/

namespace ShallowTransfer.Build

/-- A directory with the bytes of its files, or why they cannot be read. -/
structure Directory where
  path : String
  read : String → Except FileError Bytes

/-- Work that may fail and keeps a journal in either case. -/
structure Outcome (α : Type) where
  result : Except Error α
  journal : Journal

namespace Outcome

/-- Work that is done. -/
def pure {α : Type} (a : α) : Outcome α := ⟨.ok a, []⟩

/-- Work that goes on with the result of other work. -/
def bind {α β : Type} (o : Outcome α) (f : α → Outcome β) : Outcome β :=
  match o.result with
  | .error e => ⟨.error e, o.journal⟩
  | .ok a => ⟨(f a).result, o.journal ++ (f a).journal⟩

instance : Monad Outcome where
  pure := Outcome.pure
  bind := Outcome.bind

/-- Work without a report. -/
def ofExcept {α : Type} (result : Except Error α) : Outcome α := ⟨result, []⟩

/-- Work that passes a check of a configuration. -/
def ofConfig {α : Type} : Except ConfigError α → Outcome α
  | .ok a => ⟨.ok a, []⟩
  | .error e => ⟨.error (.config e), []⟩

/-- A report. -/
def info (message : String) : Outcome Unit := ⟨.ok (), [⟨.info, message⟩]⟩

end Outcome

namespace Directory

/-- The path of a file in the directory. -/
def pathOf (d : Directory) (name : String) : String :=
  if d.path.isEmpty || d.path.endsWith "/" then d.path ++ name else d.path ++ "/" ++ name

/-- Whether the directory has a file. -/
def has (d : Directory) (name : String) : Bool :=
  match d.read name with
  | .error .notFound => false
  | .error .notADirectory => false
  | .error .invalidName => false
  | _ => true

/-- The text of a file. -/
def readText (d : Directory) (name : String) : Except Error String :=
  match d.read name with
  | .error e => .error (.file e)
  | .ok bytes =>
    match String.fromUTF8? ⟨bytes.toArray⟩ with
    | some s => .ok s
    | none => .error (.file .notText)

/-- The value in a JSON file. -/
def readJson {α : Type} [JsonForm α] (d : Directory) (name : String) : Except Error α :=
  match d.readText name with
  | .error e => .error e
  | .ok text =>
    match Json.readText JsonForm.read text with
    | .ok a => .ok a
    | .error e => .error (.json e)

/-- The value in a JSON file, or the default if there is no such file. -/
def readJsonOr {α : Type} [JsonForm α] (d : Directory) (name : String) (default : α) :
    Outcome α :=
  if d.has name then do
    Outcome.info (d.pathOf name ++ " exists. Using it instead of the default.")
    Outcome.ofExcept (d.readJson name)
  else Outcome.pure default

end Directory

/-- The lexicon with the entries of a lexicon file. Tags that only the corpus has join the tag
set. -/
def lexiconOfEntries (entries : List (String × Tag)) (corpus : Corpus) (options : LexiconOptions) :
    Except Error Lexicon :=
  match TagSet.ofTags (entries.map (·.2) ++ corpus.flatten.map (·.2)) options.fallbackTag with
  | .error e => .error (.config e)
  | .ok tagSet => Lexicon.ofEntries tagSet entries options

/-- The lexicon of a lexicon file, if there is one, or of the corpus. -/
def lexiconFor (entries : Option (List (String × Tag))) (corpus : Corpus)
    (options : LexiconOptions) : Except Error Lexicon :=
  match entries with
  | some es => lexiconOfEntries es corpus options
  | none => Lexicon.ofCorpus corpus options

namespace Directory

/-- The entries of the lexicon file, if there is one. -/
def readLexicon (d : Directory) : Outcome (Option (List (String × Tag))) :=
  if d.has "lexicon.tsv" then do
    Outcome.info (d.pathOf "lexicon.tsv" ++ " exists. Using it as lexicon.")
    let text ← Outcome.ofExcept (d.readText "lexicon.tsv")
    let entries ← Outcome.ofExcept (parseLexicon text (d.pathOf "lexicon.tsv"))
    pure (some entries)
  else pure none

/-- Trains the tagger on the corpus of the directory. -/
def train (d : Directory) : Outcome Tagger := do
  let learnerOptions ← d.readJsonOr "learner.json" Spanish.learnerOptions
  let lexiconOptions ← d.readJsonOr "lexicon.json" Spanish.lexiconOptions
  Outcome.info ("Reading corpus from " ++ d.pathOf "corpus.tsv" ++ ".")
  let text ← Outcome.ofExcept (d.readText "corpus.tsv")
  let corpus ← Outcome.ofExcept (parseCorpus text (d.pathOf "corpus.tsv"))
  let entries ← d.readLexicon
  let lexicon ← Outcome.ofExcept (lexiconFor entries corpus lexiconOptions)
  Outcome.info ("Lexicon has " ++ toString lexicon.size ++ " words and " ++
    toString lexicon.tagSet.size ++ " tags.")
  let learner ← Outcome.ofConfig (Learner.ofOptions learnerOptions)
  let course ← Outcome.ofExcept (learner.learn corpus lexicon)
  (⟨.ok (), course.journal learner.options lexicon.tagSet⟩ : Outcome Unit)
  Outcome.ofConfig (Tagger.ofRules lexicon course.rules)

/-- The chunker of the directory. -/
def makeChunker (d : Directory) : Outcome Chunker := do
  Outcome.info "Creating chunker."
  let grammar ← d.readJsonOr "chunker.json" Spanish.chunkGrammar
  Outcome.ofConfig (Chunker.ofGrammar grammar)

/-- The syntactic rules of the directory. -/
def makeTransfer (d : Directory) : Outcome SyntacticTransfer := do
  Outcome.info "Creating syntactic transfer."
  d.readJsonOr "transfer.json" Spanish.syntacticTransfer

/-- The dictionary of the directory. -/
def makeDictionary (d : Directory) : Outcome Dictionary := do
  Outcome.info ("Creating dictionary from " ++ d.pathOf "dictionary.tsv" ++ ".")
  let options ← d.readJsonOr "dictionary.json" Spanish.dictionaryOptions
  let text ← Outcome.ofExcept (d.readText "dictionary.tsv")
  let dictionary ←
    Outcome.ofExcept (parseDictionary text (d.pathOf "dictionary.tsv") options)
  Outcome.info ("Dictionary has " ++ toString dictionary.size ++ " lemmas.")
  pure dictionary

/-- The tagger of the directory. -/
def makeTagger (d : Directory) : Outcome Tagger := do
  Outcome.info "Creating tagger."
  d.train

/-- The binary form of a stage. -/
def formOf {α : Type} [WireForm α] (o : Outcome α) : Outcome Bytes := do
  let a ← o
  pure (WireForm.write a)

/-- The work that makes the files of the stages, in the order in which it is done. -/
def parts (d : Directory) : List (String × Outcome Bytes) :=
  [("tagger", formOf d.makeTagger), ("chunker", formOf d.makeChunker),
    ("transfer", formOf d.makeTransfer), ("dictionary", formOf d.makeDictionary)]

/-- Does work piece by piece until one fails: the named results so far, what went wrong, and the
journal. -/
def runParts : List (String × Outcome Bytes) → List (String × Bytes) × Outcome Unit
  | [] => ([], Outcome.pure ())
  | (name, work) :: rest =>
    match work.result with
    | .error e => ([], ⟨.error e, work.journal⟩)
    | .ok bytes =>
      let (done, more) := runParts rest
      ((name, bytes) :: done, ⟨more.result, work.journal ++ more.journal⟩)

/-- Compiles the binary forms of all stages. Stages that were made before one fails are kept. -/
def compile (d : Directory) : List (String × Bytes) × Outcome Unit :=
  runParts d.parts

end Directory

end ShallowTransfer.Build
