import ShallowTransfer.Proofs.Reordering.Permutation

/-!
Tracing a transfer. Tokens and chunks of a tree may be equal, so to say which of them a rule moves,
every slot carries the index of its token in the input tree and every group the indices of the input
chunks that it is made of. The indices never decide anything: forgetting them after a traced pass
gives what the pass does without them (`map_forget_applyTraced`), so the traced run is the run of
the rules (`map_forget_runTraced`) and has the same matches (`tokenMatches_eq`, `chunkMatches_eq`).
-/

namespace ShallowTransfer

variable {α β γ : Type}

/-! ### Rows of other elements -/

/-- The piece with its elements changed. -/
def Piece.map (f : α → β) : Piece α → Piece β
  | .kept x => .kept (f x)
  | .hit span => .hit (span.map f)

/-- A row is cut in the same way when its elements are changed, as far as the rule sees them. -/
theorem cutRow_map (f : α → β) (k : Nat) (fits : List β → Bool) :
    ∀ xs : List α, cutRow k fits (xs.map f) =
      (cutRow k (fun span => fits (span.map f)) xs).map (Piece.map f)
  | [] => by rw [List.map_nil, cutRow, cutRow, List.map_nil]
  | x :: rest => by
    have htake : f x :: (rest.map f).take k = (x :: rest.take k).map f := by
      rw [List.map_cons, List.map_take]
    rw [List.map_cons, cutRow, cutRow, List.length_map, htake]
    split
    · rw [List.map_cons, ← List.map_drop, cutRow_map f k fits (rest.drop k)]
      rfl
    · rw [List.map_cons, cutRow_map f k fits rest]
      rfl
termination_by xs => xs.length
decreasing_by
  all_goals simp only [List.length_cons, List.length_drop]
  all_goals omega

theorem hits_map (f : α → β) (pieces : List (Piece α)) :
    hits (pieces.map (Piece.map f)) = (hits pieces).map (List.map f) := by
  rw [hits, hits, List.filterMap_map, List.map_filterMap]
  congr 1
  funext piece
  cases piece <;> rfl

/-- Moving changed elements is changing the moved ones. -/
theorem movePiece_map {δ : Type} {order : List Nat} {f : α → β} {g : γ → δ} {keep claim : α → γ}
    {keep' claim' : β → δ} (hkeep : ∀ x, keep' (f x) = g (keep x))
    (hclaim : ∀ x, claim' (f x) = g (claim x)) (piece : Piece α) :
    movePiece order keep' claim' (piece.map f) = (movePiece order keep claim piece).map g := by
  cases piece with
  | kept x => simp only [Piece.map, movePiece, hkeep, List.map_cons, List.map_nil]
  | hit span =>
    simp only [Piece.map, movePiece]
    rw [← map_rearrange, List.map_map, List.map_map]
    exact List.map_congr_left fun x _ => hclaim x

theorem flatMap_movePiece_map {δ : Type} {order : List Nat} {f : α → β} {g : γ → δ}
    {keep claim : α → γ} {keep' claim' : β → δ} (hkeep : ∀ x, keep' (f x) = g (keep x))
    (hclaim : ∀ x, claim' (f x) = g (claim x)) (pieces : List (Piece α)) :
    (pieces.map (Piece.map f)).flatMap (movePiece order keep' claim') =
      (pieces.flatMap (movePiece order keep claim)).map g := by
  rw [List.flatMap_map, List.map_flatMap]
  simp only [movePiece_map hkeep hclaim]

/-! ### Groups with the indices of their input -/

/-- An element of a row with the index of the input token that it is about. -/
structure Traced (α : Type) where
  item : α
  index : Nat

/-- A group whose slots have the indices of their tokens, with the indices of the chunks of the
input that it is made of. -/
structure TracedGroup where
  kind : ChunkKind
  slots : List (Traced Slot)
  claimed : Bool
  chunks : List Nat

/-- The group without indices. -/
def TracedGroup.forget (g : TracedGroup) : Group :=
  ⟨g.kind, g.slots.map Traced.item, g.claimed⟩

/-- The group after a chunk rule has moved it. -/
def TracedGroup.claim (g : TracedGroup) : TracedGroup :=
  { g with claimed := true }

/-- The slot of a place that stays. -/
def Traced.slot (p : Traced Place) : Traced Slot :=
  ⟨p.item.slot, p.index⟩

/-- The slot of a place after a token rule has moved it. -/
def Traced.claimedSlot (p : Traced Place) : Traced Slot :=
  ⟨p.item.slot.claim, p.index⟩

/-- The slots of traced groups, where the first group has the given index. -/
def tracedPlacesFrom (owner : Nat) : List TracedGroup → List (Traced Place)
  | [] => []
  | g :: rest =>
    g.slots.map (fun s => ⟨⟨s.item, owner, g.kind⟩, s.index⟩) ++ tracedPlacesFrom (owner + 1) rest

/-- Gives traced groups their slots back out of a row with as many slots. -/
def refillTraced : List TracedGroup → List (Traced Slot) → List TracedGroup
  | [], _ => []
  | g :: rest, slots =>
    { g with slots := slots.take g.slots.length } :: refillTraced rest (slots.drop g.slots.length)

/-- A group with the slots, the claim and the chunks of the next one. -/
def TracedGroup.fuse (g next : TracedGroup) : TracedGroup :=
  ⟨g.kind, g.slots ++ next.slots, g.claimed || next.claimed, g.chunks ++ next.chunks⟩

/-- Puts a traced group behind those that follow on it, and takes up the first of them if this is
fused with the group before it. -/
def fuseTracedOnto (joined : Bool) (g : TracedGroup) :
    List (Bool × TracedGroup) → List (Bool × TracedGroup)
  | (true, next) :: rest => (joined, g.fuse next) :: rest
  | rest => (joined, g) :: rest

/-- Fuses every traced group whose index is marked with the group before it. -/
def fuseTracedFrom (joined : Nat → Bool) (index : Nat) :
    List TracedGroup → List (Bool × TracedGroup)
  | [] => []
  | g :: rest => fuseTracedOnto (joined index) g (fuseTracedFrom joined (index + 1) rest)

/-- The slots of traced groups in one row. -/
def tracedSlotsIn (groups : List TracedGroup) : List (Traced Slot) :=
  groups.flatMap TracedGroup.slots

namespace SyntacticRule

/-- Traced groups cut by a chunk rule, which does not see the indices. -/
def tracedGroupPieces (kinds : List ChunkKind) (groups : List TracedGroup) :
    List (Piece TracedGroup) :=
  cutRow (kinds.length - 1) (fun span => fitsGroups kinds (span.map TracedGroup.forget)) groups

/-- Traced places cut by a token rule, which does not see the indices. -/
def tracedPlacePieces (r : SyntacticRule) (matchers : List TagMatcher) (groups : List TracedGroup) :
    List (Piece (Traced Place)) :=
  cutRow (matchers.length - 1) (fun span => r.fitsPlaces matchers (span.map Traced.item))
    (tracedPlacesFrom 0 groups)

/-- One pass of a rule over traced groups: the indices go with the slots and the groups. -/
def applyTraced (r : SyntacticRule) (groups : List TracedGroup) : List TracedGroup :=
  match r.pattern with
  | .chunks kinds =>
    (tracedGroupPieces kinds groups).flatMap (movePiece r.order id TracedGroup.claim)
  | .tokens matchers =>
    let pieces := r.tracedPlacePieces matchers groups
    let moved := refillTraced groups
      (pieces.flatMap (movePiece r.order Traced.slot Traced.claimedSlot))
    (fuseTracedFrom (joins ((hits pieces).map (List.map Traced.item))) 0 moved).map (·.2)

end SyntacticRule

/-! ### Forgetting the indices -/

theorem placesFrom_map_forget : ∀ (owner : Nat) (groups : List TracedGroup),
    placesFrom owner (groups.map TracedGroup.forget) =
      (tracedPlacesFrom owner groups).map Traced.item
  | _, [] => rfl
  | owner, g :: rest => by
    rw [List.map_cons, placesFrom, tracedPlacesFrom, List.map_append,
      placesFrom_map_forget (owner + 1) rest, TracedGroup.forget, List.map_map, List.map_map]
    rfl

theorem refill_map_forget : ∀ (groups : List TracedGroup) (slots : List (Traced Slot)),
    refill (groups.map TracedGroup.forget) (slots.map Traced.item) =
      (refillTraced groups slots).map TracedGroup.forget
  | [], _ => rfl
  | g :: rest, slots => by
    rw [List.map_cons, refill, refillTraced, List.map_cons, ← refill_map_forget rest]
    simp only [TracedGroup.forget, List.length_map, List.map_take, List.map_drop]

theorem fuseOnto_forget (joined : Bool) (g : TracedGroup) (rest : List (Bool × TracedGroup)) :
    fuseOnto joined g.forget (rest.map (Prod.map id TracedGroup.forget)) =
      (fuseTracedOnto joined g rest).map (Prod.map id TracedGroup.forget) := by
  cases rest with
  | nil => rfl
  | cons e rest =>
    obtain ⟨fused, next⟩ := e
    cases fused with
    | false => rfl
    | true => simp [fuseTracedOnto, fuseOnto, TracedGroup.fuse, TracedGroup.forget]

theorem fuseFrom_map_forget (joined : Nat → Bool) : ∀ (index : Nat) (groups : List TracedGroup),
    fuseFrom joined index (groups.map TracedGroup.forget) =
      (fuseTracedFrom joined index groups).map (Prod.map id TracedGroup.forget)
  | _, [] => rfl
  | index, g :: rest => by
    rw [List.map_cons, fuseFrom, fuseTracedFrom, fuseFrom_map_forget joined (index + 1) rest,
      fuseOnto_forget]

namespace SyntacticRule

variable (r : SyntacticRule) (groups : List TracedGroup)

theorem groupPieces_map_forget (kinds : List ChunkKind) :
    groupPieces kinds (groups.map TracedGroup.forget) =
      (tracedGroupPieces kinds groups).map (Piece.map TracedGroup.forget) :=
  cutRow_map _ _ _ _

theorem placePieces_map_forget (matchers : List TagMatcher) :
    r.placePieces matchers (groups.map TracedGroup.forget) =
      (r.tracedPlacePieces matchers groups).map (Piece.map Traced.item) := by
  rw [placePieces, placesFrom_map_forget]
  exact cutRow_map _ _ _ _

/-- The indices have no effect on a pass. -/
theorem map_forget_applyTraced :
    (r.applyTraced groups).map TracedGroup.forget = r.apply (groups.map TracedGroup.forget) := by
  cases hpattern : r.pattern with
  | chunks kinds =>
    have hmoved : ((tracedGroupPieces kinds groups).map (Piece.map TracedGroup.forget)).flatMap
        (movePiece r.order id Group.claim) =
          ((tracedGroupPieces kinds groups).flatMap
            (movePiece r.order id TracedGroup.claim)).map TracedGroup.forget :=
      flatMap_movePiece_map (by intro _; rfl) (by intro _; rfl) _
    simp only [apply, applyTraced, hpattern, groupPieces_map_forget]
    rw [funext r.moveGroups_eq, hmoved]
  | tokens matchers =>
    have hmoved : ((r.tracedPlacePieces matchers groups).map (Piece.map Traced.item)).flatMap
        (movePiece r.order Place.slot fun p => p.slot.claim) =
          ((r.tracedPlacePieces matchers groups).flatMap
            (movePiece r.order Traced.slot Traced.claimedSlot)).map Traced.item :=
      flatMap_movePiece_map (by intro _; rfl) (by intro _; rfl) _
    simp only [apply, applyTraced, hpattern, placePieces_map_forget, hits_map]
    rw [funext r.moveSlots_eq, hmoved, refill_map_forget, fuseFrom_map_forget, List.map_map,
      List.map_map]
    rfl

end SyntacticRule

/-! ### Runs -/

/-- The chunks as groups that no rule has moved, where the first chunk and the first token have the
given indices. -/
def traceFrom (chunk token : Nat) : List Chunk → List TracedGroup
  | [] => []
  | c :: rest =>
    ⟨c.kind, (c.tokens.zipIdx token).map fun e => ⟨⟨e.1, false⟩, e.2⟩, false, [chunk]⟩ ::
      traceFrom (chunk + 1) (token + c.tokens.length) rest

/-- The traced groups of a tree that no rule has moved. -/
def ShallowTree.trace (tree : ShallowTree) : List TracedGroup :=
  traceFrom 0 0 tree.chunks

theorem map_forget_traceFrom (chunks : List Chunk) : ∀ chunk token,
    (traceFrom chunk token chunks).map TracedGroup.forget = chunks.map Group.ofChunk := by
  induction chunks with
  | nil => exact fun _ _ => rfl
  | cons c rest ih =>
    intro chunk token
    have hslots : ((c.tokens.zipIdx token).map fun e : TaggedToken × Nat =>
        (⟨⟨e.1, false⟩, e.2⟩ : Traced Slot)).map Traced.item =
          c.tokens.map fun t => ⟨t, false⟩ := by
      conv_rhs => rw [← List.zipIdx_map_fst token c.tokens]
      rw [List.map_map, List.map_map]
      rfl
    rw [traceFrom, List.map_cons, ih, List.map_cons, TracedGroup.forget, hslots, Group.ofChunk]

namespace SyntacticTransfer

/-- The traced groups after some rules. -/
def runTraced (rules : List SyntacticRule) (groups : List TracedGroup) : List TracedGroup :=
  rules.foldl (fun gs r => r.applyTraced gs) groups

/-- The indices have no effect on a run. -/
theorem map_forget_runTraced (rules : List SyntacticRule) : ∀ groups : List TracedGroup,
    (runTraced rules groups).map TracedGroup.forget =
      run rules (groups.map TracedGroup.forget) := by
  induction rules with
  | nil => exact fun _ => rfl
  | cons r rest ih =>
    intro groups
    have hrest := ih (r.applyTraced groups)
    rwa [r.map_forget_applyTraced] at hrest

end SyntacticTransfer

/-! ### Matches -/

namespace SyntacticRule

/-- The spans of tokens that a pass of the rule matches; none for a chunk rule. -/
def tokenMatches (r : SyntacticRule) (groups : List Group) : List (List Place) :=
  match r.pattern with
  | .chunks _ => []
  | .tokens matchers => hits (r.placePieces matchers groups)

/-- The spans of groups that a pass of the rule matches; none for a token rule. -/
def chunkMatches (r : SyntacticRule) (groups : List Group) : List (List Group) :=
  match r.pattern with
  | .chunks kinds => hits (groupPieces kinds groups)
  | .tokens _ => []

/-- The matched spans of tokens with their indices. -/
def tracedTokenMatches (r : SyntacticRule) (groups : List TracedGroup) :
    List (List (Traced Place)) :=
  match r.pattern with
  | .chunks _ => []
  | .tokens matchers => hits (r.tracedPlacePieces matchers groups)

/-- The matched spans of groups with the indices of their chunks. -/
def tracedChunkMatches (r : SyntacticRule) (groups : List TracedGroup) : List (List TracedGroup) :=
  match r.pattern with
  | .chunks kinds => hits (tracedGroupPieces kinds groups)
  | .tokens _ => []

variable (r : SyntacticRule) (groups : List TracedGroup)

theorem tokenMatches_map_forget : r.tokenMatches (groups.map TracedGroup.forget) =
    (r.tracedTokenMatches groups).map (List.map Traced.item) := by
  cases hpattern : r.pattern with
  | chunks kinds => simp only [tokenMatches, tracedTokenMatches, hpattern, List.map_nil]
  | tokens matchers =>
    simp only [tokenMatches, tracedTokenMatches, hpattern, placePieces_map_forget, hits_map]

theorem chunkMatches_map_forget : r.chunkMatches (groups.map TracedGroup.forget) =
    (r.tracedChunkMatches groups).map (List.map TracedGroup.forget) := by
  cases hpattern : r.pattern with
  | chunks kinds =>
    simp only [chunkMatches, tracedChunkMatches, hpattern, groupPieces_map_forget, hits_map]
  | tokens matchers => simp only [chunkMatches, tracedChunkMatches, hpattern, List.map_nil]

end SyntacticRule

namespace SyntacticTransfer

/-- What every rule of a run matches, one rule after another, where `found` tells it of one pass and
`pass` is the pass. -/
def matchesFrom {σ μ : Type} (found : SyntacticRule → σ → List μ) (pass : SyntacticRule → σ → σ) :
    List SyntacticRule → σ → List μ
  | [], _ => []
  | r :: rest, groups => found r groups ++ matchesFrom found pass rest (pass r groups)

/-- The matches of all token rules while a tree is reordered. -/
def tokenMatches (t : SyntacticTransfer) (tree : ShallowTree) : List (List Place) :=
  matchesFrom SyntacticRule.tokenMatches SyntacticRule.apply t.rules (start tree)

/-- The matches of all chunk rules while a tree is reordered. -/
def chunkMatches (t : SyntacticTransfer) (tree : ShallowTree) : List (List Group) :=
  matchesFrom SyntacticRule.chunkMatches SyntacticRule.apply t.rules (start tree)

/-- The matches of all token rules with the indices of their tokens. -/
def tracedTokenMatches (t : SyntacticTransfer) (tree : ShallowTree) : List (List (Traced Place)) :=
  matchesFrom SyntacticRule.tracedTokenMatches SyntacticRule.applyTraced t.rules tree.trace

/-- The matches of all chunk rules with the indices of their chunks. -/
def tracedChunkMatches (t : SyntacticTransfer) (tree : ShallowTree) : List (List TracedGroup) :=
  matchesFrom SyntacticRule.tracedChunkMatches SyntacticRule.applyTraced t.rules tree.trace

/-- Two runs in step have the same matches if each pass has. -/
theorem matchesFrom_map {σ τ μ ν : Type} {found : SyntacticRule → σ → List μ}
    {pass : SyntacticRule → σ → σ} {found' : SyntacticRule → τ → List ν}
    {pass' : SyntacticRule → τ → τ} {f : τ → σ} {g : ν → μ}
    (hfound : ∀ r s, found r (f s) = (found' r s).map g)
    (hpass : ∀ r s, f (pass' r s) = pass r (f s)) (rules : List SyntacticRule) :
    ∀ s, matchesFrom found pass rules (f s) = (matchesFrom found' pass' rules s).map g := by
  induction rules with
  | nil => exact fun _ => rfl
  | cons r rest ih =>
    intro s
    rw [matchesFrom, matchesFrom, List.map_append, hfound, ← hpass, ih]

theorem map_forget_trace (tree : ShallowTree) : tree.trace.map TracedGroup.forget = start tree :=
  map_forget_traceFrom tree.chunks 0 0

/-- The traced matches of token rules are the matches. -/
theorem tokenMatches_eq (t : SyntacticTransfer) (tree : ShallowTree) :
    t.tokenMatches tree = (t.tracedTokenMatches tree).map (List.map Traced.item) := by
  rw [tokenMatches, ← map_forget_trace]
  exact matchesFrom_map (fun r groups => r.tokenMatches_map_forget groups)
    (fun r groups => r.map_forget_applyTraced groups) t.rules tree.trace

/-- The traced matches of chunk rules are the matches. -/
theorem chunkMatches_eq (t : SyntacticTransfer) (tree : ShallowTree) :
    t.chunkMatches tree = (t.tracedChunkMatches tree).map (List.map TracedGroup.forget) := by
  rw [chunkMatches, ← map_forget_trace]
  exact matchesFrom_map (fun r groups => r.chunkMatches_map_forget groups)
    (fun r groups => r.map_forget_applyTraced groups) t.rules tree.trace

end SyntacticTransfer

end ShallowTransfer
