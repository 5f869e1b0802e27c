import ShallowTransfer.Tag.Matcher

/-!
Sentences and shallow trees: tokens, their tags with where these come from, and the flat sequence
of labelled chunks a sentence is grouped into. Later stages only move tokens; the flat list of
tokens in tree order is the view all of them are described by.
-/

namespace ShallowTransfer

/-- A word and its position in the sentence. -/
structure Token where
  text : String
  position : Nat
deriving Repr, DecidableEq

/-- The words as tokens with consecutive positions from zero. -/
def tokensFrom (words : List String) : List Token :=
  words.zipIdx.map fun e => ⟨e.1, e.2⟩

/-- Where the tag of a token comes from: the lexicon, the fallback for unknown words, or the rule
at an index of the rule list. -/
inductive Origin where
  | lexicon
  | fallback
  | rule (index : Nat)
deriving Repr, DecidableEq

/-- A token with its tag. -/
structure TaggedToken where
  token : Token
  tag : Tag
  origin : Origin
deriving Repr, DecidableEq

namespace TaggedToken

/-- The word. -/
def text (t : TaggedToken) : String :=
  t.token.text

/-- The position of the word in the sentence. -/
def position (t : TaggedToken) : Nat :=
  t.token.position

/-- The word and its tag. -/
def render (t : TaggedToken) : String :=
  t.text ++ "/" ++ t.tag

end TaggedToken

/-- The labels of chunks. The last one labels a token that no chunk rule takes up. -/
inductive ChunkKind where
  | nounPhrase
  | verbPhrase
  | adjectivePhrase
  | adverbPhrase
  | prepositionalPhrase
  | other
deriving Repr, DecidableEq

namespace ChunkKind

/-- All kinds in the order of their numbers in the binary form. -/
def all : List ChunkKind :=
  [.nounPhrase, .verbPhrase, .adjectivePhrase, .adverbPhrase, .prepositionalPhrase, .other]

/-- The written label. -/
def label : ChunkKind → String
  | .nounPhrase => "NP"
  | .verbPhrase => "VP"
  | .adjectivePhrase => "AdjP"
  | .adverbPhrase => "AdvP"
  | .prepositionalPhrase => "PP"
  | .other => "O"

/-- Reads a label. -/
def parse (s : String) : Except ConfigError ChunkKind :=
  match all.find? fun k => k.label = s with
  | some k => .ok k
  | none => .error (.unknownChunkLabel s)

end ChunkKind

/-- A span of tokens with a label. -/
structure Chunk where
  kind : ChunkKind
  tokens : List TaggedToken
deriving Repr, DecidableEq

/-- The written form of a chunk. -/
def Chunk.render (c : Chunk) : String :=
  "(" ++ c.kind.label ++ String.join (c.tokens.map fun t => " " ++ t.render) ++ ")"

/-- The chunks of a sentence in their order. -/
structure ShallowTree where
  chunks : List Chunk
deriving Repr, DecidableEq

namespace ShallowTree

/-- All tokens in tree order. -/
def tokens (t : ShallowTree) : List TaggedToken :=
  t.chunks.flatMap fun c => c.tokens

/-- The source positions of all tokens in tree order. -/
def positions (t : ShallowTree) : List Nat :=
  t.tokens.map TaggedToken.position

/-- The number of tokens. -/
def size (t : ShallowTree) : Nat :=
  t.tokens.length

/-- The written form of a tree. -/
def render (t : ShallowTree) : String :=
  "(S" ++ String.join (t.chunks.map fun c => " " ++ c.render) ++ ")"

end ShallowTree

end ShallowTransfer
