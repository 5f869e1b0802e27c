import ShallowTransfer.Chunking.Chunker
import ShallowTransfer.Lexical.Dictionary
import ShallowTransfer.Reordering.Transfer
import ShallowTransfer.Tagging.Tagger
import ShallowTransfer.Wire.Form

/-!
The binary forms of the stages. A form holds the fields of a value one behind another; matchers and
labels in rules are texts. A form that breaks a rule of its type is refused with the configuration
error of the stage.
-/

namespace ShallowTransfer

open WireForm (write read)

/-! ### The tagger -/

instance : WireForm TagSet where
  write s := write s.names
  read := do WireReader.ofConfig (TagSet.ofNames (← read))

instance : WireForm LexiconOptions where
  write o := write o.fallbackTag ++ write o.lowercaseLookup
  read := do
    let fallbackTag ← read
    let lowercaseLookup ← read
    pure ⟨fallbackTag, lowercaseLookup⟩

instance : WireForm Lexicon where
  write l := write l.tagSet ++ write l.words ++ write l.options
  read := do
    let tagSet ← read
    let words ← read
    let options ← read
    pure ⟨tagSet, words, options⟩

namespace Context

/-- The fields of a condition. -/
def fieldsWire : Context → Bytes
  | prevTag tag => write tag
  | nextTag tag => write tag
  | prevTwoTag tag => write tag
  | nextTwoTag tag => write tag
  | prevOrPrevTwoTag tag => write tag
  | surroundTags prev next => write prev ++ write next
  | prevWord word => write word
  | nextWord word => write word
  | currentWord word => write word

/-- The readers of the fields of conditions, by template. -/
def wireReaders : List (WireReader Context) :=
  [do return prevTag (← read), do return nextTag (← read), do return prevTwoTag (← read),
    do return nextTwoTag (← read), do return prevOrPrevTwoTag (← read),
    do
      let prev ← read
      let next ← read
      pure (surroundTags prev next),
    do return prevWord (← read), do return nextWord (← read), do return currentWord (← read)]

end Context

instance : WireForm Context where
  write c := Wire.case c.template.index ++ c.fieldsWire
  read := WireReader.choice Context.wireReaders

instance : WireForm TransformRule where
  write r := write r.source ++ write r.target ++ write r.context
  read := do
    let source ← read
    let target ← read
    let context ← read
    pure ⟨source, target, context⟩

instance : WireForm RuleList where
  write l := write l.rules
  read := do return ⟨← read⟩

instance : WireForm Tagger where
  write t := write t.lexicon ++ write t.rules
  read := do
    let lexicon ← read
    let rules ← read
    WireReader.ofConfig (Tagger.ofRules lexicon rules)

/-! ### The chunker -/

instance : WireForm TagMatcher where
  write m := write m.render
  read := do WireReader.ofConfig (TagMatcher.parse (← read))

/-- The number of a kind. -/
def ChunkKind.index : ChunkKind → Nat
  | nounPhrase => 0
  | verbPhrase => 1
  | adjectivePhrase => 2
  | adverbPhrase => 3
  | prepositionalPhrase => 4
  | other => 5

instance : WireForm ChunkKind where
  write k := Wire.case k.index
  read := WireReader.choice (ChunkKind.all.map WireReader.pure)

/-- Reads a length, which is not zero. -/
def ChunkLength.ofWire (n : UInt64) : WireReader ChunkLength :=
  if h : n ≠ 0 then WireReader.pure ⟨n, h⟩ else WireReader.fail (.mismatch none)

instance : WireForm ChunkLength where
  write n := write n.val
  read := do ChunkLength.ofWire (← read)

instance : WireForm ChunkRule where
  write r := write r.kind ++ write r.starts ++ write r.continues ++ write r.maxLength
  read := do
    let kind ← read
    let starts ← read
    let continues ← read
    let maxLength ← read
    pure ⟨kind, starts, continues, maxLength⟩

instance : WireForm ChunkGrammar where
  write g := write g.rules
  read := do return ⟨← read⟩

instance : WireForm Chunker where
  write c := write c.grammar
  read := do WireReader.ofConfig (Chunker.ofGrammar (← read))

/-! ### Syntactic transfer -/

/-- The number of a level. -/
def RuleLevel.index : RuleLevel → Nat
  | chunk => 0
  | token => 1

instance : WireForm RuleLevel where
  write l := Wire.case l.index
  read := WireReader.choice [WireReader.pure .chunk, WireReader.pure .token]

instance : WireForm RuleForm where
  write r := write r.name ++ write r.level ++ write r.pattern ++ write r.output ++
    write r.within ++ write r.singleChunk
  read := do
    let name ← read
    let level ← read
    let pattern ← read
    let output ← read
    let within ← read
    let singleChunk ← read
    pure ⟨name, level, pattern, output, within, singleChunk⟩

instance : WireForm SyntacticRule where
  write r := write r.toForm
  read := do WireReader.ofConfig (SyntacticRule.ofForm (← read))

instance : WireForm SyntacticTransfer where
  write t := write t.rules
  read := do return ⟨← read⟩

/-! ### The dictionary -/

instance : WireForm Entry where
  write e := write e.target ++ write e.tag ++ write e.rank ++ write e.prev ++ write e.next
  read := do
    let target ← read
    let tag ← read
    let rank ← read
    let prev ← read
    let next ← read
    pure ⟨target, tag, rank, prev, next⟩

instance : WireForm DictionaryOptions where
  write o := write o.preserveCase
  read := do return ⟨← read⟩

instance : WireForm Dictionary where
  write d := write d.entries ++ write d.options
  read := do
    let entries ← read
    let options ← read
    pure ⟨entries, options⟩

end ShallowTransfer
