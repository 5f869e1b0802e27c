import ShallowTransfer.Tree

/-!
Chunking: a tagged sentence is cut from left to right into labelled chunks. The first rule that can
start at a token opens a chunk, which takes all following tokens that can continue it, up to its
greatest length. A token that no rule can start at is a chunk of its own. The chunks put together
are the sentence (`flatMap_tokens_segment`).
-/

namespace ShallowTransfer

/-- A length that is not zero. -/
abbrev ChunkLength := { n : UInt64 // n ≠ 0 }

/-- How chunks of one kind start and go on, and how long they may get. -/
structure ChunkRule where
  kind : ChunkKind
  starts : List TagMatcher
  continues : List TagMatcher
  maxLength : Option ChunkLength
deriving Repr, DecidableEq

namespace ChunkRule

/-- The rule with the written matchers, for chunks of any length. -/
def parse (kind : ChunkKind) (starts continues : List String) : Except ConfigError ChunkRule := do
  let first ← parseMatchers starts
  let further ← parseMatchers continues
  .ok ⟨kind, first, further, none⟩

/-- The rule with a greatest length. -/
def withMaxLength (r : ChunkRule) (n : ChunkLength) : ChunkRule :=
  { r with maxLength := some n }

/-- Whether a chunk can start with the tag. -/
def canStart (r : ChunkRule) (tag : Tag) : Bool :=
  r.starts.any fun m => m.accepts tag

/-- Whether a chunk can go on with the tag. -/
def canContinue (r : ChunkRule) (tag : Tag) : Bool :=
  r.continues.any fun m => m.accepts tag

/-- The tokens a chunk takes of those behind its first one. -/
def extension (r : ChunkRule) (rest : List TaggedToken) : List TaggedToken :=
  let run := rest.takeWhile fun t => r.canContinue t.tag
  match r.maxLength with
  | none => run
  | some n => run.take (n.val.toNat - 1)

/-- What a chunk takes are the next tokens in their order. -/
theorem extension_prefix (r : ChunkRule) (rest : List TaggedToken) : r.extension rest <+: rest := by
  have h : (rest.takeWhile fun t => r.canContinue t.tag) <+: rest := List.takeWhile_prefix _
  rw [extension]
  split
  · exact h
  · exact (List.take_prefix _ _).trans h

/-- The tokens that a chunk takes and those that are left are all tokens. -/
theorem extension_append_drop (r : ChunkRule) (rest : List TaggedToken) :
    r.extension rest ++ rest.drop (r.extension rest).length = rest := by
  obtain ⟨left, h⟩ := r.extension_prefix rest
  have hd : (r.extension rest ++ left).drop (r.extension rest).length = left := List.drop_left
  rw [h] at hd
  rw [hd, h]

end ChunkRule

/-- Chunk rules, first those preferred where several can start. -/
structure ChunkGrammar where
  rules : List ChunkRule
deriving Repr, DecidableEq

namespace ChunkGrammar

/-- The largest number of rules. -/
def maxRules : Nat := 64

/-- The first fault among the rules behind those with the given kinds: a rule that never starts, or
a second rule for a kind. -/
def firstFault : List ChunkKind → List ChunkRule → Option ConfigError
  | _, [] => none
  | kinds, r :: rest =>
    if r.starts.isEmpty then some (.chunkRuleWithoutStart r.kind.label)
    else if kinds.contains r.kind then some (.duplicateChunkKind r.kind.label)
    else firstFault (r.kind :: kinds) rest

/-- Checks that a grammar can be used for chunking. -/
def check (g : ChunkGrammar) : Except ConfigError Unit :=
  if g.rules.isEmpty then .error .emptyChunkGrammar
  else if maxRules < g.rules.length then .error (.tooManyChunkRules maxRules g.rules.length)
  else
    match firstFault [] g.rules with
    | some e => .error e
    | none => .ok ()

/-- The first rule that can start with the tag. -/
def opener? (g : ChunkGrammar) (tag : Tag) : Option ChunkRule :=
  g.rules.find? fun r => r.canStart tag

/-- The chunks of a sentence. -/
def segment (g : ChunkGrammar) : List TaggedToken → List Chunk
  | [] => []
  | t :: rest =>
    match g.opener? t.tag with
    | none => ⟨.other, [t]⟩ :: g.segment rest
    | some r =>
      let more := r.extension rest
      ⟨r.kind, t :: more⟩ :: g.segment (rest.drop more.length)
termination_by tokens => tokens.length
decreasing_by
  all_goals simp only [List.length_cons, List.length_drop]
  all_goals omega

/-- The chunks hold the tokens of the sentence in their order. -/
theorem flatMap_tokens_segment (g : ChunkGrammar) :
    ∀ tokens, (g.segment tokens).flatMap Chunk.tokens = tokens
  | [] => by rw [segment, List.flatMap_nil]
  | t :: rest => by
    rw [segment]
    split
    · rw [List.flatMap_cons, flatMap_tokens_segment g rest, List.singleton_append]
    · next r _ =>
      rw [List.flatMap_cons, flatMap_tokens_segment g (rest.drop (r.extension rest).length),
        List.cons_append, r.extension_append_drop]
termination_by tokens => tokens.length
decreasing_by
  all_goals simp only [List.length_cons, List.length_drop]
  all_goals omega

end ChunkGrammar

/-- A grammar that passed the check. -/
structure Chunker where
  grammar : ChunkGrammar
  sound : grammar.check = .ok ()

namespace Chunker

/-- The chunker with a grammar. -/
def ofGrammar (grammar : ChunkGrammar) : Except ConfigError Chunker :=
  match h : grammar.check with
  | .ok () => .ok ⟨grammar, h⟩
  | .error e => .error e

/-- Groups a tagged sentence into chunks and makes sure that all tokens are still in their order. -/
def chunk (c : Chunker) (sentence : List TaggedToken) : Except InvariantError ShallowTree :=
  let tree : ShallowTree := ⟨c.grammar.segment sentence⟩
  let expected := sentence.map TaggedToken.position
  if tree.positions = expected then .ok tree else .error (.chunkMismatch expected tree.positions)

end Chunker

end ShallowTransfer
