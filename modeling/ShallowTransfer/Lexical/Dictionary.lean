import ShallowTransfer.Journal
import ShallowTransfer.OrderedMap
import ShallowTransfer.Tree

/-!
Lexical transfer: every word is replaced by a form from a bilingual dictionary. Of the entries of a
word, those whose conditions on the neighbouring tags hold are usable, and of these the one with the
least tier is taken: the whole tag of the word, then its category, then no tag, then another tag.
Within a tier the lowest rank wins, then the entry that came first. A word without a usable entry is
passed through.
-/

namespace ShallowTransfer

/-- A target form of a lemma, and where it is used. -/
structure Entry where
  target : String
  tag : Option TagMatcher
  rank : UInt32
  prev : Option TagMatcher
  next : Option TagMatcher
deriving Repr, DecidableEq

namespace Entry

/-- The form for any tag between any neighbours. -/
def plain (target : String) : Entry :=
  ⟨target, none, 0, none, none⟩

/-- The entry for words with a matching tag. -/
def withTag (e : Entry) (m : TagMatcher) : Entry :=
  { e with tag := some m }

/-- The entry with a rank. Lower ranks are preferred. -/
def withRank (e : Entry) (rank : UInt32) : Entry :=
  { e with rank := rank }

/-- The entry for words between neighbours with matching tags. -/
def withContext (e : Entry) (prev next : Option TagMatcher) : Entry :=
  { e with prev := prev, next := next }

/-- Whether a condition on a neighbour holds. -/
def conditionHolds (condition : Option TagMatcher) (tag : Option Tag) : Bool :=
  match condition, tag with
  | none, _ => true
  | some m, some t => m.accepts t
  | some _, none => false

/-- Whether the conditions on both neighbours hold. -/
def usable (e : Entry) (prev next : Option Tag) : Bool :=
  conditionHolds e.prev prev && conditionHolds e.next next

/-- How well the entry fits the tag of a word. Lower is better. -/
def tier (e : Entry) (tag : Tag) : Nat :=
  match e.tag with
  | some m => if m.acceptsWhole tag then 0 else if m.accepts tag then 1 else 3
  | none => 2

/-- Whether the first entry is preferred to the second one, apart from their order. -/
def preferred (tag : Tag) (a b : Entry) : Bool :=
  Nat.blt (a.tier tag) (b.tier tag) ||
    (Nat.beq (a.tier tag) (b.tier tag) && Nat.blt a.rank.toNat b.rank.toNat)

/-- The better of an entry and a later one. -/
def better (tag : Tag) (first later : Entry) : Entry :=
  if preferred tag later first then later else first

/-- The best entry of a list. -/
def best? (tag : Tag) : List Entry → Option Entry
  | [] => none
  | e :: rest => some (rest.foldl (better tag) e)

end Entry

/-- The options of a dictionary: whether target forms take over the capitals of the words. -/
structure DictionaryOptions where
  preserveCase : Bool
deriving Repr, DecidableEq

/-- The options that hold where nothing else is said. -/
def DictionaryOptions.default : DictionaryOptions := ⟨true⟩

/-- Whether a word was found in the dictionary or passed through. -/
inductive Status where
  | translated
  | untranslated
deriving Repr, DecidableEq

/-- A word of the target language with the token it stands for. -/
structure TargetWord where
  text : String
  source : TaggedToken
  status : Status
deriving Repr, DecidableEq

/-- Whether a word was found in the dictionary. -/
def TargetWord.isTranslated (w : TargetWord) : Bool :=
  w.status = .translated

/-- The entries of lemmas, in the order in which lemmas and entries came in. -/
structure Dictionary where
  entries : OrderedMap String (List Entry)
  options : DictionaryOptions
deriving Repr, DecidableEq

namespace Dictionary

/-- The dictionary without lemmas. -/
def empty (options : DictionaryOptions) : Dictionary :=
  ⟨OrderedMap.empty, options⟩

/-- The dictionary with other options. -/
def withOptions (d : Dictionary) (options : DictionaryOptions) : Dictionary :=
  { d with options := options }

/-- The number of lemmas. -/
def size (d : Dictionary) : Nat :=
  d.entries.size

/-- The entries of a lemma in the order in which they came in. -/
def get (d : Dictionary) (headword : String) : List Entry :=
  (d.entries.get? (Text.lowercase headword)).getD []

/-- Adds an entry to a lemma. -/
def insert (d : Dictionary) (headword : String) (entry : Entry) : Dictionary :=
  { d with entries := d.entries.alter (Text.lowercase headword) fun es => es.getD [] ++ [entry] }

/-- Adds a plain entry, whose rank is the number of entries the lemma has already. -/
def add (d : Dictionary) (headword target : String) : Dictionary :=
  d.insert headword ((Entry.plain target).withRank (UInt32.ofNat (d.get headword).length))

/-- The dictionary with plain entries; earlier ones of a lemma are preferred. -/
def ofPairs (pairs : List (String × String)) : Dictionary :=
  pairs.foldl (fun d p => d.add p.1 p.2) (empty .default)

/-- The preferred entry for a word with a tag between neighbours with the given tags. -/
def lookup (d : Dictionary) (word : String) (tag : Tag) (prev next : Option Tag) : Option Entry :=
  Entry.best? tag ((d.get word).filter fun e => e.usable prev next)

/-- A target form with the capitals of the word it stands for. At the start of a sentence a capital
first letter means nothing. -/
def cased (d : Dictionary) (target source : String) (sentenceInitial : Bool) : String :=
  if !d.options.preserveCase then target
  else if Nat.blt 1 source.toList.length && Text.isUppercase source then Text.uppercase target
  else if Text.isTitleCase source && !sentenceInitial then Text.capitalize target
  else target

/-- The least position of the tokens. -/
def firstPosition? (tokens : List TaggedToken) : Option Nat :=
  match tokens with
  | [] => none
  | t :: rest => some (rest.foldl (fun n t => min n t.position) t.position)

/-- The target word of a token between neighbours with the given tags. -/
def translateToken (d : Dictionary) (first : Option Nat) (prev next : Option Tag)
    (t : TaggedToken) : TargetWord :=
  match d.lookup t.text t.tag prev next with
  | some e => ⟨d.cased e.target t.text (first = some t.position), t, .translated⟩
  | none => ⟨t.text, t, .untranslated⟩

/-- The target words of tokens, where the tag before them is given. -/
def translateRow (d : Dictionary) (first : Option Nat) : Option Tag → List TaggedToken →
    List TargetWord
  | _, [] => []
  | prev, t :: rest =>
    d.translateToken first prev (rest.head?.map TaggedToken.tag) t ::
      d.translateRow first (some t.tag) rest

/-- Whether the sentence began with a capital letter that was no part of the word. -/
def startsCapitalized (first : Option Nat) (tokens : List TaggedToken) : Bool :=
  match tokens.find? fun t => first = some t.position with
  | some t => Text.isTitleCase t.text
  | none => false

/-- The words with the first one capitalized. -/
def capitalizeFirst : List TargetWord → List TargetWord
  | [] => []
  | w :: rest => { w with text := Text.capitalize w.text } :: rest

/-- Translates all tokens of a tree. The capital of the first word of the sentence moves to the word
that comes first in the target language. -/
def transfer (d : Dictionary) (tree : ShallowTree) : List TargetWord :=
  let first := firstPosition? tree.tokens
  let words := d.translateRow first none tree.tokens
  if d.options.preserveCase && startsCapitalized first tree.tokens then capitalizeFirst words
  else words

/-- What is reported while a tree is translated. -/
def journal (d : Dictionary) (tree : ShallowTree) : Journal :=
  (d.transfer tree).filterMap fun w =>
    if w.isTranslated then none
    else some ⟨.debug, "No translation for \"" ++ w.source.text ++ "\" (" ++ w.source.tag ++ ")."⟩

end Dictionary

end ShallowTransfer
