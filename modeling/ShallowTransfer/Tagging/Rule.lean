import ShallowTransfer.Tag.TagSet

/-!
Transformation rules: a rule changes one tag into another wherever a condition on the neighbouring
words and tags holds. Conditions are instances of templates such as "the previous tag is `t`". A
rule is matched against the sentence as it was before the rule, so that a change in one place never
decides whether the same rule fires in another.
-/

namespace ShallowTransfer

/-- A place in a list: what lies to its left, nearest first, the element there, and what lies to its
right. -/
structure View (α : Type) where
  left : List α
  here : α
  right : List α

/-- The places of a list behind the elements `left`, nearest first. -/
def viewsAfter {α : Type} (left : List α) : List α → List (View α)
  | [] => []
  | x :: rest => ⟨left, x, rest⟩ :: viewsAfter (x :: left) rest

/-- The places of a list in their order. -/
def views {α : Type} (xs : List α) : List (View α) :=
  viewsAfter [] xs

/-- There are as many places as elements. -/
theorem length_viewsAfter {α : Type} (left xs : List α) :
    (viewsAfter left xs).length = xs.length := by
  induction xs generalizing left with
  | nil => rfl
  | cons x rest ih => simp [viewsAfter, ih]

/-- The elements at the places are those of the list. -/
theorem map_here_viewsAfter {α : Type} (left xs : List α) :
    (viewsAfter left xs).map View.here = xs := by
  induction xs generalizing left with
  | nil => rfl
  | cons x rest ih => simp [viewsAfter, ih]

/-- A word as rules see it: in lower case, with the tag it has at the moment. -/
structure Seen where
  word : String
  tag : TagId
deriving Repr, DecidableEq

/-- The kinds of conditions. -/
inductive Template where
  | prevTag
  | nextTag
  | prevTwoTag
  | nextTwoTag
  | prevOrPrevTwoTag
  | surroundTags
  | prevWord
  | nextWord
  | currentWord
deriving Repr, DecidableEq

namespace Template

/-- All templates in their default priority. -/
def all : List Template :=
  [.prevTag, .nextTag, .prevTwoTag, .nextTwoTag, .prevOrPrevTwoTag, .surroundTags, .prevWord,
    .nextWord, .currentWord]

/-- The name of a template. -/
def name : Template → String
  | .prevTag => "prev_tag"
  | .nextTag => "next_tag"
  | .prevTwoTag => "prev_two_tag"
  | .nextTwoTag => "next_two_tag"
  | .prevOrPrevTwoTag => "prev_or_prev_two_tag"
  | .surroundTags => "surround_tags"
  | .prevWord => "prev_word"
  | .nextWord => "next_word"
  | .currentWord => "current_word"

/-- The place of a template among all templates. -/
def index : Template → Nat
  | .prevTag => 0
  | .nextTag => 1
  | .prevTwoTag => 2
  | .nextTwoTag => 3
  | .prevOrPrevTwoTag => 4
  | .surroundTags => 5
  | .prevWord => 6
  | .nextWord => 7
  | .currentWord => 8

end Template

/-- A condition on the neighbours of a word. -/
inductive Context where
  | prevTag (tag : TagId)
  | nextTag (tag : TagId)
  | prevTwoTag (tag : TagId)
  | nextTwoTag (tag : TagId)
  | prevOrPrevTwoTag (tag : TagId)
  | surroundTags (prev next : TagId)
  | prevWord (word : String)
  | nextWord (word : String)
  | currentWord (word : String)
deriving Repr, DecidableEq

namespace Context

/-- The tag `n` places further along the list, counted from zero. -/
def tagAt (xs : List Seen) (n : Nat) : Option TagId :=
  xs[n]?.map Seen.tag

/-- The word `n` places further along the list, counted from zero. -/
def wordAt (xs : List Seen) (n : Nat) : Option String :=
  xs[n]?.map Seen.word

/-- Whether the condition holds at a place. A neighbour outside of the sentence fulfils none. -/
def holds (v : View Seen) : Context → Bool
  | prevTag tag => tagAt v.left 0 = some tag
  | nextTag tag => tagAt v.right 0 = some tag
  | prevTwoTag tag => tagAt v.left 1 = some tag
  | nextTwoTag tag => tagAt v.right 1 = some tag
  | prevOrPrevTwoTag tag => tagAt v.left 0 = some tag || tagAt v.left 1 = some tag
  | surroundTags prev next => tagAt v.left 0 = some prev && tagAt v.right 0 = some next
  | prevWord word => wordAt v.left 0 = some word
  | nextWord word => wordAt v.right 0 = some word
  | currentWord word => v.here.word = word

/-- The template of a condition. -/
def template : Context → Template
  | prevTag _ => .prevTag
  | nextTag _ => .nextTag
  | prevTwoTag _ => .prevTwoTag
  | nextTwoTag _ => .nextTwoTag
  | prevOrPrevTwoTag _ => .prevOrPrevTwoTag
  | surroundTags _ _ => .surroundTags
  | prevWord _ => .prevWord
  | nextWord _ => .nextWord
  | currentWord _ => .currentWord

/-- The numbers of the tags in a condition. -/
def tagIds : Context → List TagId
  | prevTag tag => [tag]
  | nextTag tag => [tag]
  | prevTwoTag tag => [tag]
  | nextTwoTag tag => [tag]
  | prevOrPrevTwoTag tag => [tag]
  | surroundTags prev next => [prev, next]
  | prevWord _ => []
  | nextWord _ => []
  | currentWord _ => []

/-- The written form of a condition, where `_` is the place of the word. -/
def render (s : TagSet) : Context → String
  | prevTag tag => s.nameOrFallback tag ++ " _"
  | nextTag tag => "_ " ++ s.nameOrFallback tag
  | prevTwoTag tag => s.nameOrFallback tag ++ " * _"
  | nextTwoTag tag => "_ * " ++ s.nameOrFallback tag
  | prevOrPrevTwoTag tag => s.nameOrFallback tag ++ " (*) _"
  | surroundTags prev next => s.nameOrFallback prev ++ " _ " ++ s.nameOrFallback next
  | prevWord word => "\"" ++ word ++ "\" _"
  | nextWord word => "_ \"" ++ word ++ "\""
  | currentWord word => "_=\"" ++ word ++ "\""

/-- A condition as a list of numbers, first that of its template. -/
def key (c : Context) : List Nat :=
  c.template.index :: match c with
    | prevWord word => word.toList.map Char.toNat
    | nextWord word => word.toList.map Char.toNat
    | currentWord word => word.toList.map Char.toNat
    | c => c.tagIds.map UInt16.toNat

end Context

/-- The instance of a template that holds at a place, unless it needs a neighbour that is not
there. The instance for one of two previous tags takes the nearer one. -/
def Template.instantiate (v : View Seen) : Template → Option Context
  | prevTag => (Context.tagAt v.left 0).map .prevTag
  | nextTag => (Context.tagAt v.right 0).map .nextTag
  | prevTwoTag => (Context.tagAt v.left 1).map .prevTwoTag
  | nextTwoTag => (Context.tagAt v.right 1).map .nextTwoTag
  | prevOrPrevTwoTag => (Context.tagAt v.left 0).map .prevOrPrevTwoTag
  | surroundTags =>
    match Context.tagAt v.left 0, Context.tagAt v.right 0 with
    | some prev, some next => some (.surroundTags prev next)
    | _, _ => none
  | prevWord => (Context.wordAt v.left 0).map .prevWord
  | nextWord => (Context.wordAt v.right 0).map .nextWord
  | currentWord => some (.currentWord v.here.word)

/-- Changes the tag `source` into `target` wherever the condition holds. -/
structure TransformRule where
  source : TagId
  target : TagId
  context : Context
deriving Repr, DecidableEq

namespace TransformRule

/-- The numbers of all tags in a rule. -/
def tagIds (r : TransformRule) : List TagId :=
  r.source :: r.target :: r.context.tagIds

/-- Whether the rule fires at a place. -/
def fires (r : TransformRule) (v : View Seen) : Bool :=
  v.here.tag = r.source && r.context.holds v

/-- The word at a place after the rule. -/
def retag (r : TransformRule) (v : View Seen) : Seen :=
  if r.fires v then { v.here with tag := r.target } else v.here

/-- The sentence after the rule. -/
def apply (r : TransformRule) (sentence : List Seen) : List Seen :=
  (views sentence).map r.retag

/-- The written form of a rule. -/
def render (r : TransformRule) (s : TagSet) : String :=
  s.nameOrFallback r.source ++ " -> " ++ s.nameOrFallback r.target ++ " / " ++ r.context.render s

/-- A rule as a list of numbers. Rules are ordered like these lists. -/
def key (r : TransformRule) : List Nat :=
  r.source.toNat :: r.target.toNat :: r.context.key

end TransformRule

end ShallowTransfer
