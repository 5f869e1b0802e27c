import ShallowTransfer.Proofs.Reordering.Tracing

/-!
Traced indices tell the truth. In every state of a traced run the slots carry each token of the tree
with its own index, the groups together carry the index of every chunk once, and each group has the
kind of the first chunk that it is made of (`Follows`). A pass only moves slots and groups and
fuses neighbours, so it keeps all three (`Follows.applyTraced`).
-/

namespace ShallowTransfer

/-! ### What a pass does to traced groups -/

theorem tracedSlotsIn_cons (g : TracedGroup) (rest : List TracedGroup) :
    tracedSlotsIn (g :: rest) = g.slots ++ tracedSlotsIn rest :=
  List.flatMap_cons

theorem map_slot_tracedPlacesFrom : ∀ (owner : Nat) (groups : List TracedGroup),
    (tracedPlacesFrom owner groups).map Traced.slot = tracedSlotsIn groups
  | _, [] => rfl
  | owner, g :: rest => by
    rw [tracedPlacesFrom, List.map_append, map_slot_tracedPlacesFrom (owner + 1) rest,
      tracedSlotsIn_cons, List.map_map]
    simp [Function.comp_def, Traced.slot]

theorem tracedSlotsIn_refillTraced : ∀ {groups : List TracedGroup} {slots : List (Traced Slot)},
    slots.length = (tracedSlotsIn groups).length →
      tracedSlotsIn (refillTraced groups slots) = slots
  | [], slots, h => by
    rw [tracedSlotsIn, List.flatMap_nil, List.length_nil, List.length_eq_zero_iff] at h
    rw [h, refillTraced, tracedSlotsIn, List.flatMap_nil]
  | g :: rest, slots, h => by
    rw [tracedSlotsIn_cons, List.length_append] at h
    have hrest : (slots.drop g.slots.length).length = (tracedSlotsIn rest).length := by
      rw [List.length_drop]
      omega
    rw [refillTraced, tracedSlotsIn_cons, tracedSlotsIn_refillTraced hrest, List.take_append_drop]

/-- Filling groups changes nothing but their slots. -/
theorem map_refillTraced {α : Type} {f : TracedGroup → α}
    (hf : ∀ g slots, f { g with slots := slots } = f g) :
    ∀ (groups : List TracedGroup) (slots : List (Traced Slot)),
      (refillTraced groups slots).map f = groups.map f
  | [], _ => rfl
  | g :: rest, slots => by
    rw [refillTraced, List.map_cons, List.map_cons, hf, map_refillTraced hf rest]

theorem forall_refillTraced {p : TracedGroup → Prop}
    (hp : ∀ g slots, p g → p { g with slots := slots }) :
    ∀ {groups : List TracedGroup} {slots : List (Traced Slot)}, (∀ g ∈ groups, p g) →
      ∀ g ∈ refillTraced groups slots, p g
  | [], _, _ => by simp [refillTraced]
  | g :: rest, slots, h => by
    rw [List.forall_mem_cons] at h
    rw [refillTraced, List.forall_mem_cons]
    exact ⟨hp g _ h.1, forall_refillTraced hp h.2⟩

/-- Fusing groups keeps every row that fusing puts together. -/
theorem flatMap_fuseTracedFrom {α : Type} {f : TracedGroup → List α}
    (hf : ∀ g next : TracedGroup, f (g.fuse next) = f g ++ f next) (joined : Nat → Bool) :
    ∀ (index : Nat) (groups : List TracedGroup),
      ((fuseTracedFrom joined index groups).map (·.2)).flatMap f = groups.flatMap f
  | _, [] => rfl
  | index, g :: rest => by
    rw [List.flatMap_cons, ← flatMap_fuseTracedFrom hf joined (index + 1) rest, fuseTracedFrom]
    unfold fuseTracedOnto
    split
    · next heq => rw [heq]; simp [hf]
    · simp

/-- What holds of all groups holds of the fused ones, if fusing keeps it. -/
theorem forall_fuseTracedFrom {p : TracedGroup → Prop}
    (hp : ∀ g next, p g → p next → p (g.fuse next)) (joined : Nat → Bool) :
    ∀ (index : Nat) {groups : List TracedGroup}, (∀ g ∈ groups, p g) →
      ∀ g ∈ (fuseTracedFrom joined index groups).map (·.2), p g
  | _, [], _ => by simp [fuseTracedFrom]
  | index, g :: rest, h => by
    have hrest := forall_fuseTracedFrom hp joined (index + 1)
      fun g' hg' => h g' (List.mem_cons_of_mem g hg')
    have hg := h g List.mem_cons_self
    rw [fuseTracedFrom]
    unfold fuseTracedOnto
    split
    · next next more heq =>
      rw [heq] at hrest
      simp only [List.map_cons, List.forall_mem_cons] at hrest ⊢
      exact ⟨hp g next hg hrest.1, hrest.2⟩
    · simp only [List.map_cons, List.forall_mem_cons]
      exact ⟨hg, hrest⟩

namespace SyntacticRule

variable (r : SyntacticRule) (groups : List TracedGroup)

theorem applyTraced_of_chunks {kinds : List ChunkKind} (h : r.pattern = .chunks kinds) :
    r.applyTraced groups =
      (tracedGroupPieces kinds groups).flatMap (movePiece r.order id TracedGroup.claim) := by
  simp only [applyTraced, h]

/-- What a group holds apart from its claim stays when a chunk rule moves it. -/
theorem flatMap_movedGroups_perm {α : Type} {kinds : List ChunkKind} (h : r.pattern = .chunks kinds)
    {f : TracedGroup → List α} (hf : ∀ g : TracedGroup, f g.claim = f g) :
    ((r.applyTraced groups).flatMap f).Perm (groups.flatMap f) := by
  have hsize := length_of_chunks h
  rw [r.applyTraced_of_chunks groups h, tracedGroupPieces, hsize]
  exact r.flatMap_movePiece_perm (by intro _; rfl) hf

/-- What a slot holds apart from its claim stays when a token rule moves it. -/
theorem map_movedPlaces_perm {α : Type} {matchers : List TagMatcher}
    (h : r.pattern = .tokens matchers) {f : Traced Slot → α}
    (hf : ∀ s : Traced Slot, f ⟨s.item.claim, s.index⟩ = f s) :
    (((r.tracedPlacePieces matchers groups).flatMap
      (movePiece r.order Traced.slot Traced.claimedSlot)).map f).Perm
        ((tracedSlotsIn groups).map f) := by
  have hsize := length_of_tokens h
  rw [← map_slot_tracedPlacesFrom 0 groups, List.map_map, tracedPlacePieces, hsize]
  exact r.map_movePiece_perm (by intro _; rfl) (fun p => hf p.slot)

/-- A token rule leaves the moved slots in one row. -/
theorem tracedSlotsIn_applyTraced_of_tokens {matchers : List TagMatcher}
    (h : r.pattern = .tokens matchers) :
    tracedSlotsIn (r.applyTraced groups) =
      (r.tracedPlacePieces matchers groups).flatMap
        (movePiece r.order Traced.slot Traced.claimedSlot) := by
  have hlen := (r.map_movedPlaces_perm groups h (f := Traced.index) (by intro _; rfl)).length_eq
  rw [List.length_map, List.length_map] at hlen
  simp only [applyTraced, h]
  rw [tracedSlotsIn, flatMap_fuseTracedFrom (by intro _ _; rfl)]
  exact tracedSlotsIn_refillTraced hlen

/-- After a pass of any rule the slots are the same as before it, apart from their claims. -/
theorem map_tracedSlotsIn_applyTraced_perm {α : Type} {f : Traced Slot → α}
    (hf : ∀ s : Traced Slot, f ⟨s.item.claim, s.index⟩ = f s) :
    ((tracedSlotsIn (r.applyTraced groups)).map f).Perm ((tracedSlotsIn groups).map f) := by
  cases hpattern : r.pattern with
  | chunks kinds => exact (r.flatMap_movedGroups_perm groups hpattern (by intro _; rfl)).map f
  | tokens matchers =>
    rw [r.tracedSlotsIn_applyTraced_of_tokens groups hpattern]
    exact r.map_movedPlaces_perm groups hpattern hf

/-- A token rule leaves the chunks that the groups are made of in their order. -/
theorem chunks_applyTraced_of_tokens {matchers : List TagMatcher}
    (h : r.pattern = .tokens matchers) :
    (r.applyTraced groups).flatMap TracedGroup.chunks = groups.flatMap TracedGroup.chunks := by
  simp only [applyTraced, h]
  rw [flatMap_fuseTracedFrom (by intro _ _; rfl), List.flatMap_def,
    map_refillTraced (by intro _ _; rfl), ← List.flatMap_def]

/-- After a pass of any rule the groups are made of the same chunks as before it. -/
theorem chunks_applyTraced_perm :
    ((r.applyTraced groups).flatMap TracedGroup.chunks).Perm
      (groups.flatMap TracedGroup.chunks) := by
  cases hpattern : r.pattern with
  | chunks kinds => exact r.flatMap_movedGroups_perm groups hpattern (by intro _; rfl)
  | tokens matchers => exact .of_eq (r.chunks_applyTraced_of_tokens groups hpattern)

/-- What holds of all groups before a pass of a token rule holds of them after it, if it has nothing
to do with the slots and fusing keeps it. -/
theorem forall_applyTraced_of_tokens {matchers : List TagMatcher} (h : r.pattern = .tokens matchers)
    {p : TracedGroup → Prop} (hfill : ∀ g slots, p g → p { g with slots := slots })
    (hfuse : ∀ g next, p g → p next → p (g.fuse next)) (hall : ∀ g ∈ groups, p g) :
    ∀ g ∈ r.applyTraced groups, p g := by
  simp only [applyTraced, h]
  exact forall_fuseTracedFrom hfuse _ 0 (forall_refillTraced hfill hall)

end SyntacticRule

/-! ### Indices that tell the truth -/

/-- The kind of the first chunk that a group is made of. -/
def ShallowTree.firstKind? (tree : ShallowTree) (chunks : List Nat) : Option ChunkKind :=
  (chunks.head?.bind (tree.chunks[·]?)).map Chunk.kind

/-- Traced groups follow a tree: their slots are its tokens with their indices, they are made of its
chunks, and each has the kind of the first of its chunks. -/
structure Follows (tree : ShallowTree) (groups : List TracedGroup) : Prop where
  tokens : ((tracedSlotsIn groups).map fun s => (s.item.token, s.index)).Perm tree.tokens.zipIdx
  chunks : (groups.flatMap TracedGroup.chunks).Perm (List.range tree.chunks.length)
  kinds : ∀ g ∈ groups, tree.firstKind? g.chunks = some g.kind

theorem ShallowTree.firstKind?_append {tree : ShallowTree} {chunks more : List Nat}
    {kind : ChunkKind} (h : tree.firstKind? chunks = some kind) :
    tree.firstKind? (chunks ++ more) = some kind := by
  cases chunks with
  | nil => cases h
  | cons i rest => exact h

/-- A pass keeps the indices true. -/
theorem Follows.applyTraced {tree : ShallowTree} {groups : List TracedGroup}
    (h : Follows tree groups) (r : SyntacticRule) : Follows tree (r.applyTraced groups) where
  tokens := (r.map_tracedSlotsIn_applyTraced_perm groups (by intro _; rfl)).trans h.tokens
  chunks := (r.chunks_applyTraced_perm groups).trans h.chunks
  kinds := by
    cases hpattern : r.pattern with
    | chunks kinds =>
      have hviews : ((r.applyTraced groups).flatMap fun g => [(g.chunks, g.kind)]).Perm
          (groups.flatMap fun g => [(g.chunks, g.kind)]) :=
        r.flatMap_movedGroups_perm groups hpattern (by intro _; rfl)
      intro g hg
      have hview := hviews.mem_iff.mp (List.mem_flatMap.mpr ⟨g, hg, List.mem_singleton_self _⟩)
      obtain ⟨g', hg', heq⟩ := List.mem_flatMap.mp hview
      rw [List.mem_singleton, Prod.mk.injEq] at heq
      rw [heq.1, heq.2]
      exact h.kinds g' hg'
    | tokens matchers =>
      exact r.forall_applyTraced_of_tokens groups hpattern (fun _ _ hg => hg)
        (fun _ _ hg _ => ShallowTree.firstKind?_append hg) h.kinds

/-! ### The start of a run -/

theorem tracedSlotsIn_traceFrom (chunks : List Chunk) : ∀ chunk token,
    (tracedSlotsIn (traceFrom chunk token chunks)).map (fun s => (s.item.token, s.index)) =
      (chunks.flatMap Chunk.tokens).zipIdx token := by
  induction chunks with
  | nil => intro _ _; rfl
  | cons c rest ih =>
    intro chunk token
    rw [traceFrom, tracedSlotsIn_cons, List.map_append, ih, List.flatMap_cons, List.zipIdx_append,
      List.map_map]
    simp [Function.comp_def]

theorem chunks_traceFrom (chunks : List Chunk) : ∀ chunk token,
    (traceFrom chunk token chunks).flatMap TracedGroup.chunks =
      List.range' chunk chunks.length := by
  induction chunks with
  | nil => intro _ _; rfl
  | cons c rest ih =>
    intro chunk token
    rw [traceFrom, List.flatMap_cons, ih, List.length_cons, List.range'_succ, List.singleton_append]

/-- Before a run each group is one chunk. -/
theorem kinds_traceFrom (chunks : List Chunk) : ∀ (before : List Chunk) (token : Nat),
    ∀ g ∈ traceFrom before.length token chunks,
      ShallowTree.firstKind? ⟨before ++ chunks⟩ g.chunks = some g.kind := by
  induction chunks with
  | nil => intro _ _; simp [traceFrom]
  | cons c rest ih =>
    intro before token
    have hrest := ih (before ++ [c]) (token + c.tokens.length)
    rw [List.length_append, List.length_singleton, List.append_assoc,
      List.singleton_append] at hrest
    rw [traceFrom, List.forall_mem_cons]
    exact ⟨by simp [ShallowTree.firstKind?], hrest⟩

/-- Before a run the indices are true. -/
theorem follows_trace (tree : ShallowTree) : Follows tree tree.trace where
  tokens := .of_eq (tracedSlotsIn_traceFrom tree.chunks 0 0)
  chunks := .of_eq ((chunks_traceFrom tree.chunks 0 0).trans List.range_eq_range'.symm)
  kinds := kinds_traceFrom tree.chunks [] 0

end ShallowTransfer
