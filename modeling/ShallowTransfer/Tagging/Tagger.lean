import ShallowTransfer.Journal
import ShallowTransfer.Tagging.Lexicon
import ShallowTransfer.Tagging.Rule

/-!
The tagger: every word gets its most likely tag from the lexicon, then the rules correct the tags
one after another, each of them on the whole sentence. A token remembers where its tag comes from.
-/

namespace ShallowTransfer

/-- The rules of a tagger. Earlier rules go first. -/
structure RuleList where
  rules : List TransformRule
deriving Repr, DecidableEq

namespace RuleList

/-- The first rule, counted from `index`, with a number that belongs to no tag, and that number. -/
def firstUnknown (s : TagSet) : Nat → List TransformRule → Option (Nat × TagId)
  | _, [] => none
  | index, r :: rest =>
    match r.tagIds.find? fun id => !s.contains id with
    | some id => some (index, id)
    | none => firstUnknown s (index + 1) rest

/-- Checks that the rules speak of tags of the tag set only. -/
def check (l : RuleList) (s : TagSet) : Except ConfigError Unit :=
  match firstUnknown s 0 l.rules with
  | some (index, id) => .error (.unknownTagId index id)
  | none => .ok ()

end RuleList

/-- A lexicon with rules that fit its tag set. -/
structure Tagger where
  lexicon : Lexicon
  rules : RuleList
  fits : rules.check lexicon.tagSet = .ok ()

/-- A sentence while it is tagged: the words as rules see them, and where their tags come from. -/
structure Tagging where
  seen : List Seen
  origins : List Origin
deriving Repr, DecidableEq

namespace Tagging

/-- The tagging by the lexicon alone. -/
def initial (lexicon : Lexicon) (words : List String) : Tagging :=
  let guesses := words.map lexicon.lookup
  ⟨words.zipWith (fun w g => ⟨Text.lowercase w, g.1⟩) guesses, guesses.map (·.2)⟩

/-- The tagging after the rule at an index. -/
def step (t : Tagging) (rule : TransformRule × Nat) : Tagging :=
  ⟨rule.1.apply t.seen,
    (views t.seen).zipWith (fun v o => if rule.1.fires v then .rule rule.2 else o) t.origins⟩

/-- The places where a rule fires. -/
def firings (t : Tagging) (rule : TransformRule) : List Nat :=
  ((views t.seen).zipIdx.filter fun v => rule.fires v.1).map (·.2)

/-- The tagged tokens. -/
def finish (t : Tagging) (s : TagSet) (tokens : List Token) : List TaggedToken :=
  (tokens.zip (t.seen.zip t.origins)).map fun e => ⟨e.1, s.nameOrFallback e.2.1.tag, e.2.2⟩

end Tagging

namespace Tagger

/-- The tagger with a lexicon and rules. -/
def ofRules (lexicon : Lexicon) (rules : RuleList) : Except ConfigError Tagger :=
  match h : rules.check lexicon.tagSet with
  | .ok () => .ok ⟨lexicon, rules, h⟩
  | .error e => .error e

/-- The tags a tagger assigns. -/
def tagSet (t : Tagger) : TagSet :=
  t.lexicon.tagSet

/-- The rules with their indices. -/
def indexedRules (t : Tagger) : List (TransformRule × Nat) :=
  t.rules.rules.zipIdx

/-- The first guess for a word. -/
def mostLikelyTag (t : Tagger) (word : String) : Tag :=
  t.tagSet.nameOrFallback (t.lexicon.lookup word).1

/-- The tagging by the lexicon alone. -/
def start (t : Tagger) (tokens : List Token) : Tagging :=
  Tagging.initial t.lexicon (tokens.map Token.text)

/-- The tagging after some of the rules. -/
def run (t : Tagger) (tokens : List Token) (rules : List (TransformRule × Nat)) : Tagging :=
  rules.foldl Tagging.step (t.start tokens)

/-- The tokens with the first guesses. -/
def initial (t : Tagger) (tokens : List Token) : List TaggedToken :=
  (t.start tokens).finish t.tagSet tokens

/-- The tokens with their tags after all rules. -/
def tag (t : Tagger) (tokens : List Token) : List TaggedToken :=
  (t.run tokens t.indexedRules).finish t.tagSet tokens

/-- The tokens with their tags after the first `n` rules. -/
def tagUpTo (t : Tagger) (n : Nat) (tokens : List Token) : List TaggedToken :=
  (t.run tokens (t.indexedRules.take n)).finish t.tagSet tokens

/-- What is reported when the rule at an index changes the tag of a word. -/
def firingRecord (t : Tagger) (rule : TransformRule × Nat) (word : String) : Record :=
  ⟨.debug, "Rule #" ++ toString rule.2 ++ " (" ++ rule.1.render t.tagSet ++
    ") changed the tag of \"" ++ word ++ "\"."⟩

/-- The reports of the rules that are still to come. -/
def journalFrom (t : Tagger) (tokens : List Token) : Tagging → List (TransformRule × Nat) → Journal
  | _, [] => []
  | state, rule :: rest =>
    (state.firings rule.1).filterMap (fun i => tokens[i]?.map fun w => t.firingRecord rule w.text) ++
      journalFrom t tokens (state.step rule) rest

/-- What is reported while the tokens are tagged. -/
def journal (t : Tagger) (tokens : List Token) : Journal :=
  t.journalFrom tokens (t.start tokens) t.indexedRules

end Tagger

end ShallowTransfer
