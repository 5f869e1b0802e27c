/-!
What can go wrong, as causes. Errors in the configuration of a stage are found when the stage is
built; each has a text. Stored data is refused with the kind of the first fault in it, which may be
a configuration error itself.
-/

namespace ShallowTransfer

/-- Errors in the configuration of a stage. -/
inductive ConfigError where
  | emptyTagSet
  | emptyFallbackTag
  | duplicateTag (tag : String)
  | emptyTemplateSet
  | duplicateTemplate (template : String)
  | zeroMinScore
  | unknownTagId (index : Nat) (id : UInt16)
  | emptyChunkGrammar
  | tooManyChunkRules (max found : Nat)
  | chunkRuleWithoutStart (kind : String)
  | duplicateChunkKind (kind : String)
  | unknownChunkLabel (label : String)
  | invalidTagMatcher (text : String)
  | tokenLevelOption (name option : String)
  | emptyPattern (name : String)
  | notAPermutation (name reason : String)
deriving Repr, DecidableEq

/-- The text of a configuration error. -/
def ConfigError.message : ConfigError → String
  | .emptyTagSet => "the tag set must contain at least one tag"
  | .emptyFallbackTag => "the fallback tag for unknown words must not be empty"
  | .duplicateTag tag => s!"tag '{tag}' is listed more than once"
  | .emptyTemplateSet => "the learner needs at least one rule template"
  | .duplicateTemplate template => s!"rule template '{template}' is listed more than once"
  | .zeroMinScore => "the minimum rule score must be at least one"
  | .unknownTagId index id => s!"rule #{index} references tag id {id} outside of the tag set"
  | .emptyChunkGrammar => "the chunk grammar must contain at least one rule"
  | .tooManyChunkRules max found =>
    s!"the chunk grammar supports at most {max} rules, got {found}"
  | .chunkRuleWithoutStart kind => s!"chunk rule for {kind} has no start patterns"
  | .duplicateChunkKind kind => s!"chunk kind {kind} has more than one rule"
  | .unknownChunkLabel label => s!"unknown chunk label '{label}'"
  | .invalidTagMatcher text => s!"invalid tag matcher '{text}'"
  | .tokenLevelOption name option =>
    s!"syntactic rule '{name}' matches chunks but sets the token level option `{option}`"
  | .emptyPattern name => s!"syntactic rule '{name}' has an empty pattern"
  | .notAPermutation name reason =>
    s!"syntactic rule '{name}' does not output a permutation of its pattern: {reason}"

/-- A promise about the output of a stage that is broken, by the source positions that were expected
and those that were found. -/
inductive InvariantError where
  | chunkMismatch (expected found : List Nat)
  | notAPermutation (expected found : List Nat)
deriving Repr, DecidableEq

/-- The positions as text. -/
def InvariantError.positions (ps : List Nat) : String :=
  "[" ++ ", ".intercalate (ps.map toString) ++ "]"

/-- The text of a broken promise. -/
def InvariantError.message : InvariantError → String
  | .chunkMismatch expected found =>
    "chunks do not reproduce the input tokens: expected positions " ++ positions expected ++
      ", found " ++ positions found
  | .notAPermutation expected found =>
    "syntactic transfer output is not a permutation of its input: expected positions " ++
      positions expected ++ ", found " ++ positions found

/-- Why a JSON text is refused: it breaks the grammar of JSON, it ends too early, or it does not fit
the type that is read from it. -/
inductive JsonError where
  | malformed
  | truncated
  | mismatch (cause : Option ConfigError)
deriving Repr, DecidableEq

/-- Why a binary form is refused: it ends too early, a text in it is not UTF-8, the byte of a flag
or of an option is neither zero nor one, or it does not fit the type that is read from it. -/
inductive WireError where
  | unexpectedEnd
  | invalidText
  | invalidFlag
  | invalidOption
  | mismatch (cause : Option ConfigError)
deriving Repr, DecidableEq

/-- Why a file cannot be used. -/
inductive FileError where
  | notFound
  | notText
  | notADirectory
  | isADirectory
  | alreadyExists
  | invalidName
  | permissionDenied
  | other
deriving Repr, DecidableEq

/-- All errors of the library. -/
inductive Error where
  | file (e : FileError)
  | wire (e : WireError)
  | json (e : JsonError)
  | config (e : ConfigError)
  | invariant (e : InvariantError)
  | unknownTag (tag : String)
  | sentence (text : String) (e : InvariantError)
  | parse (path : String) (line : Nat) (message : String)
deriving Repr, DecidableEq

/-- The text of an error, for those that have one of their own. -/
def Error.message? : Error → Option String
  | .config e => some e.message
  | .invariant e => some e.message
  | .unknownTag tag => some s!"tag '{tag}' is not part of the tag set"
  | .sentence text _ => some s!"failed to translate sentence \"{text}\""
  | .parse path line message => some s!"{path}:{line}: {message}"
  | .json (.mismatch (some e)) => some e.message
  | .wire (.mismatch (some e)) => some e.message
  | _ => none

end ShallowTransfer
