import ShallowTransfer.CommandLine.Arguments
import ShallowTransfer.CommandLine.Files
import ShallowTransfer.Translator

/-!
The commands: `train` compiles the stages from a build directory, and `translate` puts a text or the
lines of the input into the target language with stages that were compiled before.
-/

namespace ShallowTransfer.CommandLine

/-- A command with its options. -/
inductive Command where
  | train (buildDir outDir : String)
  | translate (tagger dictionary : String) (chunker transfer : Option String) (trees : Bool)
      (text : Option String)
deriving Repr, DecidableEq

namespace Command

/-- The options of `train`. -/
def trainUsage : Usage :=
  ⟨[⟨"build-dir", some 'b', true, true⟩, ⟨"out-dir", some 'o', true, true⟩], 0⟩

/-- The options of `translate`. -/
def translateUsage : Usage :=
  ⟨[⟨"tagger", some 't', true, true⟩, ⟨"dictionary", some 'd', true, true⟩,
    ⟨"chunker", none, true, false⟩, ⟨"transfer", none, true, false⟩,
    ⟨"trees", none, false, false⟩], 1⟩

/-- Reads the arguments of `train`. -/
def parseTrain (args : List String) : Except Refusal Command := do
  let a ← trainUsage.parse args
  .ok (.train ((a.value? "build-dir").getD "") ((a.value? "out-dir").getD ""))

/-- Reads the arguments of `translate`. -/
def parseTranslate (args : List String) : Except Refusal Command := do
  let a ← translateUsage.parse args
  .ok (.translate ((a.value? "tagger").getD "") ((a.value? "dictionary").getD "")
    (a.value? "chunker") (a.value? "transfer") (a.switches.contains "trees") a.positionals.head?)

/-- Reads a command with its arguments. -/
def parse (name : String) (args : List String) : Except Refusal Command :=
  if name = "train" then parseTrain args
  else if name = "translate" then parseTranslate args
  else .error .misuse

end Command

/-- What a command leaves behind: its exit code and what it printed. -/
structure Exit where
  code : Nat
  output : String
deriving Repr, DecidableEq

/-- The exit of a command that is not run. -/
def Refusal.exit : Refusal → Exit
  | .misuse => ⟨2, ""⟩
  | .description => ⟨0, ""⟩

/-- The exit of a command that fails after it printed something. -/
def failed (output : String) : Exit := ⟨1, output⟩

/-- The lines of a sentence in the target language, with the trees if they are wanted. -/
def printed (trees : Bool) (t : Rendition) : String :=
  (if trees then t.source.render ++ "\n" ++ t.tree.render ++ "\n" else "") ++ t.text ++ "\n"

/-- What translating texts prints, up to the first one that fails. -/
def printAll (t : Translator) (trees : Bool) : List (Except Error String) → String → Exit
  | [], output => ⟨0, output⟩
  | .error _ :: _, output => failed output
  | .ok text :: rest, output =>
    match t.translate text with
    | .error _ => failed output
    | .ok renditions =>
      printAll t trees rest (output ++ String.join (renditions.map (printed trees)))

/-- The bytes between line feeds, where a carriage return in front of one does not count. -/
def byteLines : Bytes → List Bytes
  | [] => []
  | b :: rest =>
    if b = 10 then [] :: byteLines rest
    else
      match rest, byteLines rest with
      | [], _ => [[b]]
      | _, [] => [[b]]
      | next :: _, line :: more =>
        if b = 13 && next = 10 then line :: more else (b :: line) :: more

/-- The lines of the input as texts. -/
def inputLines (input : Bytes) : List (Except Error String) :=
  (byteLines input).map fun line =>
    match String.fromUTF8? ⟨line.toArray⟩ with
    | some s => .ok s
    | none => .error (.file .notText)

section Run
variable {m : Type → Type} [Monad m] [Files m]

/-- The names of the files that a build directory may have. -/
def buildFiles : List String :=
  ["corpus.tsv", "dictionary.tsv", "lexicon.tsv", "learner.json", "lexicon.json", "chunker.json",
    "transfer.json", "dictionary.json"]

/-- The path of a file in a directory. -/
def inDirectory (dir name : String) : String :=
  Build.Directory.pathOf ⟨dir, fun _ => .error .notFound⟩ name

/-- The files of a build directory. -/
def loadDirectory (path : String) : m Build.Directory := do
  let contents ← buildFiles.mapM fun name => do
    return (name, ← Files.read (inDirectory path name))
  return ⟨path, fun name => (contents.lookup name).getD (.error .notFound)⟩

/-- The stages whose files training makes. -/
def stageNames : List String := ["tagger", "chunker", "transfer", "dictionary"]

/-- Writes files into a directory until one fails. -/
def writeAll (dir : String) : List (String × Bytes) → m (Except FileError Unit)
  | [] => return .ok ()
  | (name, bytes) :: rest => do
    match ← Files.write (inDirectory dir (name ++ ".bin")) bytes with
    | .error e => return .error e
    | .ok () => writeAll dir rest

/-- Trains on a build directory. The files of all stages are there from the start, and empty until
their stage is made. -/
def runTrain (buildDir outDir : String) : m Exit := do
  match ← Files.makeDirectory outDir with
  | .error _ => return failed ""
  | .ok () =>
    match ← writeAll outDir (stageNames.map fun name => (name, [])) with
    | .error _ => return failed ""
    | .ok () =>
      let directory ← loadDirectory buildDir
      let (done, outcome) := directory.compile
      match ← writeAll outDir done, outcome.result with
      | .ok (), .ok () => return ⟨0, ""⟩
      | _, _ => return failed ""

/-- Loads a stage from its file. -/
def loadStage (α : Type) [WireForm α] (path : String) : m (Except Error α) := do
  match ← Files.read path with
  | .error e => return .error (.file e)
  | .ok bytes =>
    match WireForm.decode bytes with
    | .ok a => return .ok a
    | .error e => return .error (.wire e)

/-- Loads a stage from its file, if there is a path, or takes the default. -/
def loadStageOr (α : Type) [WireForm α] (path : Option String) (default : α) :
    m (Except Error α) :=
  match path with
  | some p => loadStage α p
  | none => return .ok default

/-- The translator with compiled stages. -/
def loadTranslator (tagger dictionary : String) (chunker transfer : Option String) :
    m (Except Error Translator) := do
  let c ← loadStageOr Chunker chunker Spanish.chunker
  let s ← loadStageOr SyntacticTransfer transfer Spanish.syntacticTransfer
  let t ← loadStage Tagger tagger
  let d ← loadStage Dictionary dictionary
  match c, s, t, d with
  | .ok c, .ok s, .ok t, .ok d => return .ok ⟨t, c, s, d⟩
  | .error e, _, _, _ => return .error e
  | _, .error e, _, _ => return .error e
  | _, _, .error e, _ => return .error e
  | _, _, _, .error e => return .error e

/-- Runs a command on the given input. -/
def Command.run (input : Bytes) : Command → m Exit
  | .train buildDir outDir => runTrain buildDir outDir
  | .translate tagger dictionary chunker transfer trees text => do
    match ← loadTranslator tagger dictionary chunker transfer with
    | .error _ => return failed ""
    | .ok t =>
      match text with
      | some s => return printAll t trees [.ok s] ""
      | none => return printAll t trees (inputLines input) ""

/-- Runs a command given by its name and arguments. -/
def runCommand (name : String) (args : List String) (input : Bytes) : m Exit :=
  match Command.parse name args with
  | .error refusal => return refusal.exit
  | .ok command => command.run input

end Run

end ShallowTransfer.CommandLine
