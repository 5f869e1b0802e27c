import Mathlib.Data.List.Pairwise
import Mathlib.Data.List.Perm.Basic
import ShallowTransfer.Proofs.Reordering.Order
import ShallowTransfer.Proofs.Sorting

/-!
Transfer moves tokens and does nothing else to them. A pass of a chunk rule moves whole groups; a
pass of a token rule moves the slots of all groups in one row, deals the row out to groups of the
old sizes and fuses neighbours, and neither of the last two steps changes the row. So the tokens
stay the same through every pass (`tokensIn_apply`) and every run of rules (`tokensIn_run`), and
the check at the end of a transfer always passes (`transfer_perm`).
-/

namespace ShallowTransfer

/-- The slots of the groups in one row. -/
def slotsIn (groups : List Group) : List Slot :=
  groups.flatMap Group.slots

/-- The tokens of the groups in one row. -/
def tokensIn (groups : List Group) : List TaggedToken :=
  (slotsIn groups).map Slot.token

/-- The elements of a piece after a rule, which keeps some and moves others. -/
def movePiece {α β : Type} (order : List Nat) (keep claim : α → β) : Piece α → List β
  | .kept x => [keep x]
  | .hit span => (rearrange order span).map claim

/-- What the pieces hold stays the same when the spans among them are rearranged, if it stays the
same for each element. -/
theorem flatMap_pieces_perm {α β γ : Type} {order : List Nat} {pieces : List (Piece α)}
    {keep claim : α → β} {f : α → List γ} {g : β → List γ}
    (hperm : ∀ span, Piece.hit span ∈ pieces → (rearrange order span).Perm span)
    (hkeep : ∀ x, g (keep x) = f x) (hclaim : ∀ x, g (claim x) = f x) :
    ((pieces.flatMap (movePiece order keep claim)).flatMap g).Perm
      ((pieces.flatMap Piece.elements).flatMap f) := by
  have hpiece : ∀ piece ∈ pieces,
      ((movePiece order keep claim piece).flatMap g).Perm (piece.elements.flatMap f) := by
    intro piece hmem
    cases piece with
    | kept x =>
      rw [movePiece, Piece.elements, List.flatMap_singleton, List.flatMap_singleton, hkeep]
    | hit span =>
      rw [movePiece, List.flatMap_map, Piece.elements, funext hclaim]
      exact (hperm span hmem).flatMap_right _
  have hall := List.Perm.flatMap_left _ hpiece
  rwa [← List.flatMap_assoc, ← List.flatMap_assoc] at hall

theorem map_pieces_perm {α β γ : Type} {order : List Nat} {pieces : List (Piece α)}
    {keep claim : α → β} {f : α → γ} {g : β → γ}
    (hperm : ∀ span, Piece.hit span ∈ pieces → (rearrange order span).Perm span)
    (hkeep : ∀ x, g (keep x) = f x) (hclaim : ∀ x, g (claim x) = f x) :
    ((pieces.flatMap (movePiece order keep claim)).map g).Perm
      ((pieces.flatMap Piece.elements).map f) := by
  rw [List.map_eq_flatMap, List.map_eq_flatMap]
  exact flatMap_pieces_perm hperm (fun x => by rw [hkeep]) (fun x => by rw [hclaim])

theorem slotsIn_cons (g : Group) (rest : List Group) :
    slotsIn (g :: rest) = g.slots ++ slotsIn rest :=
  List.flatMap_cons

/-! ### The row of slots -/

theorem slots_placesFrom : ∀ (owner : Nat) (groups : List Group),
    (placesFrom owner groups).map Place.slot = slotsIn groups
  | _, [] => rfl
  | owner, g :: rest => by
    rw [placesFrom, List.map_append, slots_placesFrom (owner + 1) rest, slotsIn_cons, List.map_map]
    simp [Function.comp_def]

/-- The places of groups come in the order of their groups. -/
theorem le_owner_of_mem : ∀ {owner : Nat} {groups : List Group} {p : Place},
    p ∈ placesFrom owner groups → owner ≤ p.owner
  | _, [], _, h => nomatch h
  | owner, g :: rest, p, h => by
    rcases List.mem_append.mp h with h | h
    · obtain ⟨s, -, rfl⟩ := List.mem_map.mp h
      exact Nat.le_refl owner
    · exact Nat.le_of_succ_le (le_owner_of_mem h)

theorem pairwise_owner : ∀ (owner : Nat) (groups : List Group),
    (placesFrom owner groups).Pairwise fun p q => p.owner ≤ q.owner
  | _, [] => .nil
  | owner, g :: rest => by
    rw [placesFrom, List.pairwise_append]
    refine ⟨?_, pairwise_owner (owner + 1) rest, ?_⟩
    · rw [List.pairwise_map]
      exact List.pairwise_of_forall fun _ _ => Nat.le_refl owner
    · intro p hp q hq
      obtain ⟨s, -, rfl⟩ := List.mem_map.mp hp
      exact Nat.le_of_succ_le (le_owner_of_mem hq)

/-- The groups of the places in a span lie between those at its ends. -/
theorem exists_spanOwners : ∀ {span : List Place},
    span ≠ [] → (span.Pairwise fun p q => p.owner ≤ q.owner) →
      ∃ first ∈ span, ∃ last ∈ span, spanOwners span = some (first.owner, last.owner) ∧
        ∀ p ∈ span, first.owner ≤ p.owner ∧ p.owner ≤ last.owner
  | [], hne, _ => absurd rfl hne
  | p :: rest, hne, hsorted => by
    have : Std.Refl fun p q : Place => p.owner ≤ q.owner := ⟨fun p => Nat.le_refl p.owner⟩
    exact ⟨p, List.mem_cons_self, (p :: rest).getLast hne, List.getLast_mem hne, rfl,
      fun q hq => ⟨hsorted.rel_head hq, hsorted.rel_getLast hq⟩⟩

theorem spanOwners_of_same (owner : Nat) {span : List Place} (h : ∀ p ∈ span, p.owner = owner) :
    ((spanOwners span).all fun e => e.1 = e.2) = true := by
  cases span with
  | nil => rfl
  | cons p rest =>
    simp only [spanOwners, Option.all_some, decide_eq_true_eq]
    rw [h _ List.mem_cons_self, h _ (List.getLast_mem _)]

/-- Groups that are filled with a row of as many slots hold this row. -/
theorem slotsIn_refill : ∀ {groups : List Group} {slots : List Slot},
    slots.length = (slotsIn groups).length → slotsIn (refill groups slots) = slots
  | [], slots, h => by
    rw [slotsIn, List.flatMap_nil, List.length_nil, List.length_eq_zero_iff] at h
    rw [h, refill, slotsIn, List.flatMap_nil]
  | g :: rest, slots, h => by
    rw [slotsIn_cons, List.length_append] at h
    have hrest : (slots.drop g.slots.length).length = (slotsIn rest).length := by
      rw [List.length_drop]
      omega
    rw [refill, slotsIn_cons, slotsIn_refill hrest, List.take_append_drop]

theorem slotsIn_fuseOnto (joined : Bool) (g : Group) (rest : List (Bool × Group)) :
    slotsIn ((fuseOnto joined g rest).map (·.2)) = g.slots ++ slotsIn (rest.map (·.2)) := by
  unfold fuseOnto
  split
  · rw [List.map_cons, List.map_cons, slotsIn_cons, slotsIn_cons, List.append_assoc]
  · rw [List.map_cons, slotsIn_cons]

/-- Fusing groups leaves the row of their slots as it is. -/
theorem slotsIn_fuseFrom (joined : Nat → Bool) : ∀ (index : Nat) (groups : List Group),
    slotsIn ((fuseFrom joined index groups).map (·.2)) = slotsIn groups
  | _, [] => rfl
  | index, g :: rest => by
    rw [fuseFrom, slotsIn_fuseOnto, slotsIn_fuseFrom joined (index + 1) rest, slotsIn_cons]

namespace SyntacticRule

variable (r : SyntacticRule) (groups : List Group)

/-! ### One pass -/

/-- A span that is cut out of a row for a rule is rearranged by the order of the rule. -/
theorem rearrange_perm_of_mem_cutRow {α : Type} {fits : List α → Bool} {row span : List α}
    (h : Piece.hit span ∈ cutRow (r.pattern.size - 1) fits row) :
    (rearrange r.order span).Perm span := by
  have hlen : span.length = r.pattern.size := by
    have := (hit_of_mem_cutRow h).1
    have := r.size_ne_zero
    omega
  exact rearrange_perm (hlen ▸ r.order_perm)

/-- What the elements of a row hold stays the same when a rule moves them, if it stays the same for
each element. -/
theorem flatMap_movePiece_perm {α β γ : Type} {fits : List α → Bool} {row : List α}
    {keep claim : α → β} {f : α → List γ} {g : β → List γ} (hkeep : ∀ x, g (keep x) = f x)
    (hclaim : ∀ x, g (claim x) = f x) :
    (((cutRow (r.pattern.size - 1) fits row).flatMap (movePiece r.order keep claim)).flatMap g).Perm
      (row.flatMap f) := by
  have hperm : ∀ span, Piece.hit span ∈ cutRow (r.pattern.size - 1) fits row →
      (rearrange r.order span).Perm span := fun _ hmem => r.rearrange_perm_of_mem_cutRow hmem
  have hall := flatMap_pieces_perm hperm hkeep hclaim
  rwa [flatMap_elements_cutRow] at hall

theorem map_movePiece_perm {α β γ : Type} {fits : List α → Bool} {row : List α}
    {keep claim : α → β} {f : α → γ} {g : β → γ} (hkeep : ∀ x, g (keep x) = f x)
    (hclaim : ∀ x, g (claim x) = f x) :
    (((cutRow (r.pattern.size - 1) fits row).flatMap (movePiece r.order keep claim)).map g).Perm
      (row.map f) := by
  rw [List.map_eq_flatMap, List.map_eq_flatMap]
  exact r.flatMap_movePiece_perm (fun x => by rw [hkeep]) (fun x => by rw [hclaim])

theorem moveGroups_eq (piece : Piece Group) :
    r.moveGroups piece = movePiece r.order id Group.claim piece := by
  cases piece <;> rfl

theorem moveSlots_eq (piece : Piece Place) :
    r.moveSlots piece = movePiece r.order Place.slot (fun p => p.slot.claim) piece := by
  cases piece <;> rfl

/-- A chunk rule moves groups with their slots. -/
theorem slotsIn_moveGroups {fits : List Group → Bool} :
    (slotsIn ((cutRow (r.pattern.size - 1) fits groups).flatMap r.moveGroups)).Perm
      (slotsIn groups) := by
  rw [funext r.moveGroups_eq]
  exact r.flatMap_movePiece_perm (by intro _; rfl) (by intro _; rfl)

/-- A token rule moves the tokens of a row. -/
theorem tokens_moveSlots (fits : List Place → Bool) (places : List Place) :
    (((cutRow (r.pattern.size - 1) fits places).flatMap r.moveSlots).map Slot.token).Perm
      (places.map fun p => p.slot.token) := by
  rw [funext r.moveSlots_eq]
  exact r.map_movePiece_perm (by intro _; rfl) (by intro _; rfl)

theorem apply_of_chunks {kinds : List ChunkKind} (h : r.pattern = .chunks kinds) :
    r.apply groups = (groupPieces kinds groups).flatMap r.moveGroups := by
  simp only [apply, h]

/-- A pass of a token rule leaves the moved slots in one row, however it deals them out. -/
theorem slotsIn_apply_of_tokens {matchers : List TagMatcher} (h : r.pattern = .tokens matchers) :
    slotsIn (r.apply groups) = (r.placePieces matchers groups).flatMap r.moveSlots := by
  have hsize := length_of_tokens h
  have hlen := (r.tokens_moveSlots (r.fitsPlaces matchers) (placesFrom 0 groups)).length_eq
  rw [List.length_map, List.length_map, ← List.length_map (f := Place.slot), slots_placesFrom,
    ← hsize] at hlen
  simp only [apply, h, placePieces]
  rw [slotsIn_fuseFrom, slotsIn_refill hlen]

/-- After a pass the groups hold the same tokens as before it. -/
theorem tokensIn_apply : (tokensIn (r.apply groups)).Perm (tokensIn groups) := by
  cases hpattern : r.pattern with
  | chunks kinds =>
    have hsize := length_of_chunks hpattern
    rw [r.apply_of_chunks groups hpattern, groupPieces, hsize]
    exact (r.slotsIn_moveGroups groups).map _
  | tokens matchers =>
    have hsize := length_of_tokens hpattern
    have hrow : (placesFrom 0 groups).map (fun p => p.slot.token) = tokensIn groups := by
      rw [tokensIn, ← slots_placesFrom 0 groups, List.map_map]
      rfl
    rw [tokensIn, r.slotsIn_apply_of_tokens groups hpattern, placePieces, hsize, ← hrow]
    exact r.tokens_moveSlots _ (placesFrom 0 groups)

end SyntacticRule

namespace SyntacticTransfer

/-! ### A run of rules -/

/-- After any number of passes the groups hold the same tokens as before. -/
theorem tokensIn_run : ∀ (rules : List SyntacticRule) (groups : List Group),
    (tokensIn (run rules groups)).Perm (tokensIn groups)
  | [], _ => List.Perm.refl _
  | r :: rest, groups => (tokensIn_run rest (r.apply groups)).trans (r.tokensIn_apply groups)

theorem tokens_finish (groups : List Group) : (finish groups).tokens = tokensIn groups := by
  rw [finish, ShallowTree.tokens, tokensIn, slotsIn, List.flatMap_map, List.map_flatMap]
  rfl

theorem tokensIn_start (tree : ShallowTree) : tokensIn (start tree) = tree.tokens := by
  rw [start, tokensIn, slotsIn, List.flatMap_map, List.map_flatMap]
  simp [ShallowTree.tokens, Group.ofChunk, Function.comp_def]

/-- The tokens of a tree after all passes are those before them. -/
theorem tokens_finish_perm (t : SyntacticTransfer) (tree : ShallowTree) :
    (finish (run t.rules (start tree))).tokens.Perm tree.tokens := by
  rw [tokens_finish, ← tokensIn_start tree]
  exact tokensIn_run t.rules (start tree)

theorem transfer_eq_ok (t : SyntacticTransfer) (tree : ShallowTree) :
    t.transfer tree = .ok (finish (run t.rules (start tree))) := by
  have hperm := t.tokens_finish_perm tree
  have hsame : (finish (run t.rules (start tree))).positions.mergeSort Nat.ble =
      tree.positions.mergeSort Nat.ble :=
    mergeSort_eq_of_perm ble_trans ble_total (fun m _ n _ => ble_antisymm m n)
      (hperm.map TaggedToken.position)
  rw [transfer, if_pos hsame]

/-- A transfer gives a tree with exactly the tokens of its input, whatever the rules are. -/
theorem transfer_perm (t : SyntacticTransfer) (tree : ShallowTree) :
    ∃ output, t.transfer tree = .ok output ∧ output.tokens.Perm tree.tokens := by
  refine ⟨_, t.transfer_eq_ok tree, ?_⟩
  rw [tokens_finish, ← tokensIn_start tree]
  exact tokensIn_run t.rules (start tree)

end SyntacticTransfer

end ShallowTransfer
