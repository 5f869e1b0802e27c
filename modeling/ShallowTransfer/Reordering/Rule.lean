import ShallowTransfer.Tree

/-!
Syntactic rules: a rule describes a row of neighbouring chunks by their labels, or of neighbouring
tokens by their tags, and the order in which to put them. The stored form of a rule writes the row
and the new order as two sequences of labels, like `n a` and `a n`; equal labels keep their order.
-/

namespace ShallowTransfer

/-- What the elements of a row are. -/
inductive RuleLevel where
  | chunk
  | token
deriving Repr, DecidableEq

/-- The name of a level. -/
def RuleLevel.name : RuleLevel → String
  | .chunk => "chunk"
  | .token => "token"

/-- The elements of a row: chunks with labels or tokens with tags. -/
inductive Pattern where
  | chunks (kinds : List ChunkKind)
  | tokens (matchers : List TagMatcher)
deriving Repr, DecidableEq

namespace Pattern

/-- The level of a pattern. -/
def level : Pattern → RuleLevel
  | .chunks _ => .chunk
  | .tokens _ => .token

/-- The number of elements. -/
def size : Pattern → Nat
  | .chunks kinds => kinds.length
  | .tokens matchers => matchers.length

/-- The written elements. -/
def labels : Pattern → List String
  | .chunks kinds => kinds.map ChunkKind.label
  | .tokens matchers => matchers.map TagMatcher.render

/-- Reads the elements of a pattern. Labels of chunks may have blanks around them. -/
def parse (level : RuleLevel) (texts : List String) : Except ConfigError Pattern :=
  match level with
  | .chunk => (texts.mapM fun t => ChunkKind.parse (Text.trim t)).map .chunks
  | .token => (parseMatchers texts).map .tokens

end Pattern

/-- Looks for an index that is out of range or stands in the list a second time. -/
def firstMisplaced (size : Nat) : List Nat → List Nat → Option Nat
  | _, [] => none
  | seen, i :: rest =>
    if size ≤ i || seen.contains i then some i else firstMisplaced size (i :: seen) rest

/-- Checks that an order is a rearrangement of the elements of a pattern. -/
def checkOrder (name : String) (pattern : Pattern) (order : List Nat) : Except ConfigError Unit :=
  if pattern.size = 0 then .error (.emptyPattern name)
  else if order.length ≠ pattern.size then
    .error (.notAPermutation name ("the output has " ++ toString order.length ++
      " elements but the pattern has " ++ toString pattern.size))
  else
    match firstMisplaced order.length [] order with
    | some i =>
      .error (.notAPermutation name ("index " ++ toString i ++ " is out of range or repeated"))
    | none => .ok ()

/-- A rearrangement of a row of chunks or tokens: the element at `order[i]` goes to place `i`. A
token rule may be restricted to chunks of some kinds and to matches inside of a single chunk; a
chunk rule ignores both. -/
structure SyntacticRule where
  name : String
  pattern : Pattern
  order : List Nat
  within : List ChunkKind
  singleChunk : Bool
  sound : checkOrder name pattern order = .ok ()

/-- The stored form of a rule. -/
structure RuleForm where
  name : String
  level : RuleLevel
  pattern : List String
  output : List String
  within : List ChunkKind
  singleChunk : Bool
deriving Repr, DecidableEq

namespace SyntacticRule

/-- The rule with a pattern and an order, without restrictions. -/
def ofOrder (name : String) (pattern : Pattern) (order : List Nat) :
    Except ConfigError SyntacticRule :=
  match h : checkOrder name pattern order with
  | .ok () => .ok ⟨name, pattern, order, [], false, h⟩
  | .error e => .error e

/-- The first place of a label that is not among the places used so far. -/
def freePlace? (labels : List String) (used : List Nat) (label : String) : Option Nat :=
  (labels.zipIdx.find? fun e => !used.contains e.2 && e.1 = label).map (·.2)

/-- Reads a label in the same way as those of a pattern. -/
def normalizeLabel (level : RuleLevel) (text : String) : Except ConfigError String :=
  match level with
  | .chunk => (ChunkKind.parse (Text.trim text)).map ChunkKind.label
  | .token => (TagMatcher.parse text).map TagMatcher.render

/-- The order that puts the labels of a pattern into the given sequence, where the places `used` are
taken. -/
def orderFor (name : String) (level : RuleLevel) (labels : List String) :
    List Nat → List String → Except ConfigError (List Nat)
  | _, [] => .ok []
  | used, text :: rest => do
    let label ← normalizeLabel level text
    match freePlace? labels used label with
    | none => .error (.notAPermutation name ("'" ++ label ++ "' is not left in the pattern"))
    | some i => do
      let more ← orderFor name level labels (i :: used) rest
      .ok (i :: more)

/-- The rule that puts the labels of a pattern into a new sequence. -/
def ofLabels (name : String) (level : RuleLevel) (pattern output : List String) :
    Except ConfigError SyntacticRule := do
  let row ← Pattern.parse level pattern
  let order ← orderFor name level row.labels [] output
  ofOrder name row order

/-- The rule restricted to chunks of the given kinds; none stand for all. -/
def withinKinds (r : SyntacticRule) (kinds : List ChunkKind) : SyntacticRule :=
  { r with within := kinds }

/-- The rule restricted to matches inside of a single chunk, or not. -/
def inSingleChunk (r : SyntacticRule) (single : Bool) : SyntacticRule :=
  { r with singleChunk := single }

/-- The level of a rule. -/
def level (r : SyntacticRule) : RuleLevel :=
  r.pattern.level

/-- The written elements in their new order. -/
def outputLabels (r : SyntacticRule) : List String :=
  r.order.filterMap fun i => r.pattern.labels[i]?

/-- The stored form of a rule. -/
def toForm (r : SyntacticRule) : RuleForm :=
  let isToken := r.level = .token
  ⟨r.name, r.level, r.pattern.labels, r.outputLabels, if isToken then r.within else [],
    isToken && r.singleChunk⟩

/-- The token level option that a stored chunk rule sets, if any. -/
def misplacedOption? (f : RuleForm) : Option String :=
  if f.level ≠ .chunk then none
  else if !f.within.isEmpty then some "within"
  else if f.singleChunk then some "single_chunk"
  else none

/-- The rule of a stored form. A chunk rule must not set a token level option. -/
def ofForm (f : RuleForm) : Except ConfigError SyntacticRule :=
  match misplacedOption? f with
  | some option => .error (.tokenLevelOption f.name option)
  | none => do
    let r ← ofLabels f.name f.level f.pattern f.output
    .ok ((r.withinKinds f.within).inSingleChunk f.singleChunk)

/-- The written form of a rule. -/
def render (r : SyntacticRule) : String :=
  r.name ++ ": [" ++ ", ".intercalate r.pattern.labels ++ "] -> [" ++
    ", ".intercalate r.outputLabels ++ "]"

end SyntacticRule

end ShallowTransfer
