import ShallowTransfer.Tagging.Learner
import ShallowTransfer.Translator
import ShallowTransfer.Json.Text
import ShallowTransfer.Json.Render
import ShallowTransfer.Json.Stages
import ShallowTransfer.Wire.Stages
import ShallowTransfer.Build.Directory
import ShallowTransfer.Main
import ShallowTransfer.Proofs.Tagging.SentenceOrder
import ShallowTransfer.Proofs.Reordering.Storage
import ShallowTransfer.Proofs.Reordering.Claiming
import ShallowTransfer.Proofs.Translation
import ShallowTransfer.Proofs.Reordering.WholeChunks
import ShallowTransfer.Proofs.Tagging.Limits
import ShallowTransfer.Proofs.Tag.Names
import ShallowTransfer.Proofs.Wire.Recovery
import ShallowTransfer.Proofs.Tagging.LexiconTags
import ShallowTransfer.Proofs.Tagging.Search
import ShallowTransfer.Proofs.Tagging.LeastScore
import ShallowTransfer.Proofs.Lexical.Ranks
import ShallowTransfer.Proofs.Lexical.PassedThrough
import ShallowTransfer.Proofs.Lexical.SentenceStart
import ShallowTransfer.Proofs.Lexical.Preference
import ShallowTransfer.Proofs.Lexical.Reachable
import ShallowTransfer.Proofs.Reordering.SecondPass
import ShallowTransfer.Proofs.Reordering.LabelSequences
import ShallowTransfer.Proofs.Tagging.Locality
import ShallowTransfer.Proofs.Tagging.BestGuess
import ShallowTransfer.Proofs.Tagging.LearnedRules
import ShallowTransfer.Proofs.Tag.Loading
import ShallowTransfer.Proofs.Tag.Canonical
import ShallowTransfer.Proofs.Tagging.CorpusTags
import ShallowTransfer.Proofs.Build.Training
import ShallowTransfer.Proofs.Tag.Stems
import ShallowTransfer.Proofs.Build.Layout
import ShallowTransfer.Proofs.Text.Slices
import ShallowTransfer.Proofs.Rendering
import ShallowTransfer.Proofs.Tagging.ListedWords
