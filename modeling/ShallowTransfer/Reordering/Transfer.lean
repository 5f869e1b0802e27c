import ShallowTransfer.Journal
import ShallowTransfer.Reordering.Rule

/-!
Syntactic transfer: the rules reorder a shallow tree one after another, each in one pass from left
to right. A pass cuts the row of chunks or of tokens into the spans that match the rule and the
elements between them, which put together are the row (`flatMap_elements_cutRow`), and rearranges
the spans. What a rule has moved is claimed: no later match of the same level takes it up again. A
match of tokens from several chunks fuses these into one chunk with the label of the first of them.
-/

namespace ShallowTransfer

/-- A piece of a row: an element that stays, or a span that matches a pattern. -/
inductive Piece (α : Type) where
  | kept (x : α)
  | hit (span : List α)
deriving Repr, DecidableEq

/-- Cuts a row into pieces, where `k + 1` elements in a row match if they fit. A match begins as far
to the left as it can. -/
def cutRow {α : Type} (k : Nat) (fits : List α → Bool) : List α → List (Piece α)
  | [] => []
  | x :: rest =>
    if Nat.ble k rest.length && fits (x :: rest.take k) then
      .hit (x :: rest.take k) :: cutRow k fits (rest.drop k)
    else .kept x :: cutRow k fits rest
termination_by xs => xs.length
decreasing_by
  all_goals simp only [List.length_cons, List.length_drop]
  all_goals omega

/-- The elements of a piece. -/
def Piece.elements {α : Type} : Piece α → List α
  | .kept x => [x]
  | .hit span => span

/-- The pieces hold the elements of the row in their order. -/
theorem flatMap_elements_cutRow {α : Type} (k : Nat) (fits : List α → Bool) :
    ∀ xs, (cutRow k fits xs).flatMap Piece.elements = xs
  | [] => by rw [cutRow, List.flatMap_nil]
  | x :: rest => by
    rw [cutRow]
    split
    · rw [List.flatMap_cons, flatMap_elements_cutRow k fits (rest.drop k), Piece.elements,
        List.cons_append, List.take_append_drop]
    · rw [List.flatMap_cons, flatMap_elements_cutRow k fits rest, Piece.elements,
        List.singleton_append]
termination_by xs => xs.length
decreasing_by
  all_goals simp only [List.length_cons, List.length_drop]
  all_goals omega

/-- The elements of a span in a new order. -/
def rearrange {α : Type} (order : List Nat) (span : List α) : List α :=
  order.filterMap fun i => span[i]?

/-- The spans among the pieces. -/
def hits {α : Type} (pieces : List (Piece α)) : List (List α) :=
  pieces.filterMap fun
    | .kept _ => none
    | .hit span => some span

/-- A token during transfer, claimed once a token rule has moved it. -/
structure Slot where
  token : TaggedToken
  claimed : Bool
deriving Repr, DecidableEq

/-- A chunk during transfer, claimed once a chunk rule has moved it. -/
structure Group where
  kind : ChunkKind
  slots : List Slot
  claimed : Bool
deriving Repr, DecidableEq

/-- The slot after a token rule has moved it. -/
def Slot.claim (s : Slot) : Slot :=
  { s with claimed := true }

/-- The group after a chunk rule has moved it. -/
def Group.claim (g : Group) : Group :=
  { g with claimed := true }

/-- The chunk as a group that no rule has moved. -/
def Group.ofChunk (c : Chunk) : Group :=
  ⟨c.kind, c.tokens.map fun t => ⟨t, false⟩, false⟩

/-- The group as a chunk. -/
def Group.toChunk (g : Group) : Chunk :=
  ⟨g.kind, g.slots.map Slot.token⟩

/-- A slot with the index and the kind of the group it is in. -/
structure Place where
  slot : Slot
  owner : Nat
  kind : ChunkKind
deriving Repr, DecidableEq

/-- The slots of the groups, where the first group has the given index. -/
def placesFrom (owner : Nat) : List Group → List Place
  | [] => []
  | g :: rest => g.slots.map (fun s => ⟨s, owner, g.kind⟩) ++ placesFrom (owner + 1) rest

/-- Gives the groups their slots back out of a row with as many slots. -/
def refill : List Group → List Slot → List Group
  | [], _ => []
  | g :: rest, slots =>
    { g with slots := slots.take g.slots.length } :: refill rest (slots.drop g.slots.length)

/-- Puts a group behind those that follow on it, which it takes up if the first of them is fused
with the group before it. -/
def fuseOnto (joined : Bool) (g : Group) : List (Bool × Group) → List (Bool × Group)
  | (true, next) :: rest =>
    (joined, { g with slots := g.slots ++ next.slots, claimed := g.claimed || next.claimed }) :: rest
  | rest => (joined, g) :: rest

/-- Fuses every group whose index is marked with the group before it. -/
def fuseFrom (joined : Nat → Bool) (index : Nat) : List Group → List (Bool × Group)
  | [] => []
  | g :: rest => fuseOnto (joined index) g (fuseFrom joined (index + 1) rest)

/-- The indices of the groups at the ends of a span. -/
def spanOwners : List Place → Option (Nat × Nat)
  | [] => none
  | p :: rest => some (p.owner, ((p :: rest).getLast (List.cons_ne_nil p rest)).owner)

namespace SyntacticRule

/-- Whether a rule may match tokens in chunks of the kind. -/
def allows (r : SyntacticRule) (kind : ChunkKind) : Bool :=
  r.within.isEmpty || r.within.contains kind

/-- Whether groups match the labels of a pattern one by one. -/
def fitsGroups (kinds : List ChunkKind) (span : List Group) : Bool :=
  (span.zip kinds).all fun e => e.1.kind = e.2 && !e.1.claimed

/-- Whether places match the tags of a pattern one by one. -/
def fitsPlaces (r : SyntacticRule) (matchers : List TagMatcher) (span : List Place) : Bool :=
  ((span.zip matchers).all fun e =>
    !e.1.slot.claimed && e.2.accepts e.1.slot.token.tag && r.allows e.1.kind) &&
  (!r.singleChunk || (spanOwners span).all fun e => e.1 = e.2)

/-- The groups cut by a chunk rule. -/
def groupPieces (kinds : List ChunkKind) (groups : List Group) : List (Piece Group) :=
  cutRow (kinds.length - 1) (fitsGroups kinds) groups

/-- The places cut by a token rule. -/
def placePieces (r : SyntacticRule) (matchers : List TagMatcher) (groups : List Group) :
    List (Piece Place) :=
  cutRow (matchers.length - 1) (r.fitsPlaces matchers) (placesFrom 0 groups)

/-- The groups of a piece after a chunk rule. -/
def moveGroups (r : SyntacticRule) : Piece Group → List Group
  | .kept g => [g]
  | .hit span => (rearrange r.order span).map Group.claim

/-- The slots of a piece after a token rule. -/
def moveSlots (r : SyntacticRule) : Piece Place → List Slot
  | .kept p => [p.slot]
  | .hit span => (rearrange r.order span).map fun p => p.slot.claim

/-- Whether one of the spans reaches from a group before the index to it or beyond. -/
def joins (spans : List (List Place)) (index : Nat) : Bool :=
  spans.any fun span => (spanOwners span).any fun e => Nat.blt e.1 index && Nat.ble index e.2

/-- One pass of a rule. -/
def apply (r : SyntacticRule) (groups : List Group) : List Group :=
  match r.pattern with
  | .chunks kinds => (groupPieces kinds groups).flatMap r.moveGroups
  | .tokens matchers =>
    let pieces := r.placePieces matchers groups
    let moved := refill groups (pieces.flatMap r.moveSlots)
    (fuseFrom (joins (hits pieces)) 0 moved).map (·.2)

/-- What is reported of one pass of a rule. -/
def journal (r : SyntacticRule) (groups : List Group) : Journal :=
  match r.pattern with
  | .chunks kinds =>
    (hits (groupPieces kinds groups)).map fun span =>
      ⟨.debug, "Rule \"" ++ r.name ++ "\" reordered " ++
        " ".intercalate (span.map fun g => g.kind.label) ++ "."⟩
  | .tokens matchers =>
    (hits (r.placePieces matchers groups)).map fun span =>
      ⟨.debug, "Rule \"" ++ r.name ++ "\" reordered \"" ++
        " ".intercalate (span.map fun p => p.slot.token.text) ++ "\"."⟩

end SyntacticRule

/-- Syntactic rules in the order in which they are applied. -/
structure SyntacticTransfer where
  rules : List SyntacticRule

namespace SyntacticTransfer

/-- The groups of a tree that no rule has moved. -/
def start (tree : ShallowTree) : List Group :=
  tree.chunks.map Group.ofChunk

/-- The groups after some rules. -/
def run (rules : List SyntacticRule) (groups : List Group) : List Group :=
  rules.foldl (fun gs r => r.apply gs) groups

/-- The tree with the chunks of the groups. -/
def finish (groups : List Group) : ShallowTree :=
  ⟨groups.map Group.toChunk⟩

/-- Reorders a tree and makes sure that all its tokens are still there. -/
def transfer (t : SyntacticTransfer) (tree : ShallowTree) : Except InvariantError ShallowTree :=
  let output := finish (run t.rules (start tree))
  if output.positions.mergeSort Nat.ble = tree.positions.mergeSort Nat.ble then .ok output
  else .error (.notAPermutation tree.positions output.positions)

/-- What is reported of the passes of some rules. -/
def journalFrom : List SyntacticRule → List Group → Journal
  | [], _ => []
  | r :: rest, groups => r.journal groups ++ journalFrom rest (r.apply groups)

/-- What is reported while a tree is reordered. -/
def journal (t : SyntacticTransfer) (tree : ShallowTree) : Journal :=
  journalFrom t.rules (start tree)

end SyntacticTransfer

end ShallowTransfer
