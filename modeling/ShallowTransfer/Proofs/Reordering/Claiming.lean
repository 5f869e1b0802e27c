import Mathlib.Data.List.Nodup
import Mathlib.Data.List.Pairwise
import ShallowTransfer.Proofs.Reordering.Provenance

/-!
No token and no chunk is moved twice by rules of its level. What a rule moves it claims, and the
claims go with the slots and the groups: into the group that takes up another one too. So in every
state of a run all that was moved is claimed (`Claims`), and as a match takes nothing that is
claimed, what it moves is new (`Claims.pass`). The two levels do not see each other's claims; each
keeps its own while the other one works.
-/

namespace ShallowTransfer

variable {α : Type}

/-- A matched element is one of the row. -/
theorem mem_of_mem_hits {k : Nat} {fits : List α → Bool} {row span : List α} {x : α}
    (hspan : span ∈ hits (cutRow k fits row)) (hx : x ∈ span) : x ∈ row := by
  rw [← flatMap_elements_cutRow k fits row]
  exact List.mem_flatMap.mpr ⟨_, mem_hits.mp hspan, hx⟩

/-- What is checked of two lists together is checked of each element of the first one. -/
theorem exists_of_all_zip {β : Type} {p : α × β → Bool} {xs : List α} {ys : List β}
    (hlen : xs.length = ys.length) (h : (xs.zip ys).all p = true) {x : α} (hx : x ∈ xs) :
    ∃ y, p (x, y) = true := by
  rw [← List.map_fst_zip (Nat.le_of_eq hlen)] at hx
  obtain ⟨e, he, rfl⟩ := List.mem_map.mp hx
  exact ⟨e.2, List.all_eq_true.mp h e he⟩

/-! ### Claims -/

/-- The indices of what an element of a row is made of, and whether it is claimed. -/
structure Mark where
  sources : List Nat
  claimed : Bool

/-- The mark after a rule has moved the element. -/
def Mark.claim (m : Mark) : Mark :=
  { m with claimed := true }

/-- The indices that a pass moves. -/
def movedBy (pieces : List (Piece Mark)) : List Nat :=
  (hits pieces).flatMap fun span => span.flatMap Mark.sources

/-- A row of marks after the indices `moved` were moved: nothing was moved twice, nothing is twice
in the row, and what was moved is claimed. -/
structure Claims (moved : List Nat) (row : List Mark) : Prop where
  moved_nodup : moved.Nodup
  row_nodup : (row.flatMap Mark.sources).Nodup
  claimed_of_moved : ∀ m ∈ row, ∀ i ∈ m.sources, i ∈ moved → m.claimed = true

theorem Claims.perm {moved : List Nat} {row row' : List Mark} (h : Claims moved row)
    (hperm : row'.Perm row) : Claims moved row' where
  moved_nodup := h.moved_nodup
  row_nodup := ((hperm.flatMap_right Mark.sources).nodup_iff).mpr h.row_nodup
  claimed_of_moved m hm := h.claimed_of_moved m (hperm.mem_iff.mp hm)

/-- Before a run nothing is claimed, and nothing was moved. -/
theorem claims_start {row : List Mark} (h : (row.flatMap Mark.sources).Nodup) : Claims [] row where
  moved_nodup := List.nodup_nil
  row_nodup := h
  claimed_of_moved _ _ _ _ hi := absurd hi List.not_mem_nil

theorem mem_movedBy {pieces : List (Piece Mark)} {i : Nat} :
    i ∈ movedBy pieces ↔ ∃ span, Piece.hit span ∈ pieces ∧ ∃ m ∈ span, i ∈ m.sources := by
  simp only [movedBy, List.mem_flatMap, mem_hits]

theorem movedBy_sublist : ∀ pieces : List (Piece Mark),
    (movedBy pieces).Sublist ((pieces.flatMap Piece.elements).flatMap Mark.sources)
  | [] => List.Sublist.refl []
  | .kept m :: rest => (movedBy_sublist rest).trans (List.sublist_append_right m.sources _)
  | .hit span :: rest => by
    rw [List.flatMap_cons, List.flatMap_append]
    exact (movedBy_sublist rest).append_left (span.flatMap Mark.sources)

section Pass

variable {order moved : List Nat} {pieces : List (Piece Mark)}

/-- What stays is made of other things than what is moved. -/
theorem not_mem_movedBy_of_kept
    (hnodup : ((pieces.flatMap Piece.elements).flatMap Mark.sources).Nodup) {m : Mark}
    (hm : Piece.kept m ∈ pieces) {i : Nat} (hi : i ∈ m.sources) : i ∉ movedBy pieces := by
  rw [List.flatMap_assoc, List.nodup_flatMap] at hnodup
  intro hmoved
  obtain ⟨span, hspan, m', hm', hi'⟩ := mem_movedBy.mp hmoved
  have : Std.Symm (Function.onFun List.Disjoint fun piece : Piece Mark =>
      piece.elements.flatMap Mark.sources) := ⟨fun _ _ h => List.disjoint_symm h⟩
  have hdisjoint := hnodup.2.forall hm hspan (by simp)
  refine hdisjoint ?_ (List.mem_flatMap.mpr ⟨m', hm', hi'⟩)
  simpa [Piece.elements] using hi

/-- A pass that takes nothing claimed moves only what was not moved before. -/
theorem Claims.disjoint_movedBy (h : Claims moved (pieces.flatMap Piece.elements))
    (hfree : ∀ span, Piece.hit span ∈ pieces → ∀ m ∈ span, m.claimed = false) :
    moved.Disjoint (movedBy pieces) := by
  intro i hi hmoved
  obtain ⟨span, hspan, m, hm, him⟩ := mem_movedBy.mp hmoved
  have hrow : m ∈ pieces.flatMap Piece.elements := List.mem_flatMap.mpr ⟨_, hspan, hm⟩
  have hclaimed := h.claimed_of_moved m hrow i him hi
  rw [hfree span hspan m hm] at hclaimed
  cases hclaimed

/-- A pass that takes nothing claimed claims what it moves. -/
theorem Claims.pass (h : Claims moved (pieces.flatMap Piece.elements))
    (hperm : ∀ span, Piece.hit span ∈ pieces → (rearrange order span).Perm span)
    (hfree : ∀ span, Piece.hit span ∈ pieces → ∀ m ∈ span, m.claimed = false) :
    Claims (moved ++ movedBy pieces) (pieces.flatMap (movePiece order id Mark.claim)) where
  moved_nodup :=
    h.moved_nodup.append (h.row_nodup.sublist (movedBy_sublist pieces)) (h.disjoint_movedBy hfree)
  row_nodup := by
    have hsources : ((pieces.flatMap (movePiece order id Mark.claim)).flatMap Mark.sources).Perm
        ((pieces.flatMap Piece.elements).flatMap Mark.sources) :=
      flatMap_pieces_perm hperm (by intro _; rfl) (by intro _; rfl)
    exact hsources.nodup_iff.mpr h.row_nodup
  claimed_of_moved m hm i hi hmoved := by
    obtain ⟨piece, hpiece, hm⟩ := List.mem_flatMap.mp hm
    cases piece with
    | kept m' =>
      obtain rfl : m = m' := List.mem_singleton.mp hm
      have hrow : m ∈ pieces.flatMap Piece.elements := List.mem_flatMap.mpr ⟨_, hpiece, hm⟩
      have hstays := not_mem_movedBy_of_kept h.row_nodup hpiece hi
      exact h.claimed_of_moved m hrow i hi ((List.mem_append.mp hmoved).resolve_right hstays)
    | hit span =>
      obtain ⟨m', -, rfl⟩ := List.mem_map.mp hm
      rfl

end Pass

/-! ### Passes over traced groups -/

/-- The mark of a slot, which is made of its token. -/
def Traced.mark (s : Traced Slot) : Mark :=
  ⟨[s.index], s.item.claimed⟩

/-- The mark of a group, which is made of its chunks. -/
def TracedGroup.mark (g : TracedGroup) : Mark :=
  ⟨g.chunks, g.claimed⟩

theorem flatMap_elements_map {β : Type} (f : α → β) (pieces : List (Piece α)) :
    (pieces.map (Piece.map f)).flatMap Piece.elements = (pieces.flatMap Piece.elements).map f := by
  rw [List.flatMap_map, List.map_flatMap]
  congr 1
  funext piece
  cases piece <;> rfl

theorem hit_of_mem_map {β : Type} {f : α → β} {pieces : List (Piece α)} {span : List β}
    (h : Piece.hit span ∈ pieces.map (Piece.map f)) :
    ∃ before, Piece.hit before ∈ pieces ∧ before.map f = span := by
  obtain ⟨piece, hmem, heq⟩ := List.mem_map.mp h
  cases piece with
  | kept x => cases heq
  | hit before =>
    cases heq
    exact ⟨before, hmem, rfl⟩

theorem movedBy_map (f : α → Mark) (pieces : List (Piece α)) :
    movedBy (pieces.map (Piece.map f)) =
      (hits pieces).flatMap fun span => span.flatMap fun x => (f x).sources := by
  rw [movedBy, hits_map, List.flatMap_map]
  simp only [List.flatMap_map]

namespace SyntacticRule

variable (r : SyntacticRule) {fits : List α → Bool} {row : List α}

/-- A pass of a rule that does not fit anything claimed keeps the claims of a row. -/
theorem claims_movePiece {β : Type} {keep claim : α → β} {mark : α → Mark} {mark' : β → Mark}
    {moved : List Nat} (h : Claims moved (row.map mark))
    (hfree : ∀ span, span.length = r.pattern.size → fits span = true →
      ∀ x ∈ span, (mark x).claimed = false)
    (hkeep : ∀ x, mark' (keep x) = mark x) (hclaim : ∀ x, mark' (claim x) = (mark x).claim) :
    let pieces := cutRow (r.pattern.size - 1) fits row
    Claims (moved ++ (hits pieces).flatMap fun span => span.flatMap fun x => (mark x).sources)
      ((pieces.flatMap (movePiece r.order keep claim)).map mark') := by
  intro pieces
  have hrow : (pieces.map (Piece.map mark)).flatMap Piece.elements = row.map mark := by
    rw [flatMap_elements_map, flatMap_elements_cutRow]
  have hmoved : (pieces.map (Piece.map mark)).flatMap (movePiece r.order id Mark.claim) =
      (pieces.flatMap (movePiece r.order keep claim)).map mark' :=
    flatMap_movePiece_map (f := mark) (fun x => (hkeep x).symm) (fun x => (hclaim x).symm) pieces
  rw [← movedBy_map, ← hmoved]
  refine (hrow ▸ h).pass (fun span' hspan' => ?_) (fun span' hspan' m hm => ?_)
  · obtain ⟨span, hspan, rfl⟩ := hit_of_mem_map hspan'
    rw [← map_rearrange]
    exact (r.rearrange_perm_of_mem_cutRow hspan).map mark
  · obtain ⟨span, hspan, rfl⟩ := hit_of_mem_map hspan'
    obtain ⟨x, hx, rfl⟩ := List.mem_map.mp hm
    obtain ⟨hlen, hfits⟩ := hit_of_mem_cutRow hspan
    have hsize := r.size_ne_zero
    exact hfree span (by omega) hfits x hx

/-- Groups that fit a pattern of their length are not claimed. -/
theorem claimed_of_fitsGroups {kinds : List ChunkKind} {span : List Group}
    (hlen : span.length = kinds.length) (h : fitsGroups kinds span = true) :
    ∀ g ∈ span, g.claimed = false := by
  intro g hg
  obtain ⟨kind, hfits⟩ := exists_of_all_zip hlen h hg
  simp only [Bool.and_eq_true, Bool.not_eq_true'] at hfits
  exact hfits.2

/-- Places that fit a pattern of their length are not claimed. -/
theorem claimed_of_fitsPlaces {matchers : List TagMatcher} {span : List Place}
    (hlen : span.length = matchers.length) (h : r.fitsPlaces matchers span = true) :
    ∀ p ∈ span, p.slot.claimed = false := by
  intro p hp
  rw [fitsPlaces, Bool.and_eq_true] at h
  obtain ⟨matcher, hfits⟩ := exists_of_all_zip hlen h.1 hp
  simp only [Bool.and_eq_true, Bool.not_eq_true'] at hfits
  exact hfits.1.1

/-- The tokens that were moved after a pass: those before it and those it has matched. -/
theorem claims_slots_applyTraced {moved : List Nat} {groups : List TracedGroup}
    (h : Claims moved ((tracedSlotsIn groups).map Traced.mark)) :
    Claims (moved ++ (r.tracedTokenMatches groups).flatMap (List.map Traced.index))
      ((tracedSlotsIn (r.applyTraced groups)).map Traced.mark) := by
  cases hpattern : r.pattern with
  | chunks kinds =>
    have hperm : (tracedSlotsIn (r.applyTraced groups)).Perm (tracedSlotsIn groups) :=
      r.flatMap_movedGroups_perm groups hpattern (by intro _; rfl)
    simp only [tracedTokenMatches, hpattern, List.flatMap_nil, List.append_nil]
    exact h.perm (hperm.map Traced.mark)
  | tokens matchers =>
    have hsize := length_of_tokens hpattern
    have hindex (span : List (Traced Place)) :
        span.flatMap (fun p => p.slot.mark.sources) = span.map Traced.index :=
      List.map_eq_flatMap.symm
    rw [← map_slot_tracedPlacesFrom 0, List.map_map] at h
    rw [r.tracedSlotsIn_applyTraced_of_tokens groups hpattern]
    simp only [tracedTokenMatches, hpattern]
    rw [tracedPlacePieces, hsize, ← funext hindex]
    refine r.claims_movePiece h (fun span hlen hfits p hp => ?_) ?_ ?_
    · refine r.claimed_of_fitsPlaces ?_ hfits p.item (List.mem_map_of_mem hp)
      rw [List.length_map, hlen, hsize]
    · intro p; rfl
    · intro p; rfl

/-- The chunks that were moved after a pass: those before it and those it has matched. -/
theorem claims_groups_applyTraced {moved : List Nat} {groups : List TracedGroup}
    (h : Claims moved (groups.map TracedGroup.mark)) :
    Claims (moved ++ (r.tracedChunkMatches groups).flatMap (List.flatMap TracedGroup.chunks))
      ((r.applyTraced groups).map TracedGroup.mark) := by
  cases hpattern : r.pattern with
  | chunks kinds =>
    have hsize := length_of_chunks hpattern
    rw [r.applyTraced_of_chunks groups hpattern]
    simp only [tracedChunkMatches, hpattern]
    rw [tracedGroupPieces, hsize]
    refine r.claims_movePiece h (fun span hlen hfits g hg => ?_) ?_ ?_
    · refine claimed_of_fitsGroups ?_ hfits g.forget (List.mem_map_of_mem hg)
      rw [List.length_map, hlen, hsize]
    · intro g; rfl
    · intro g; rfl
  | tokens matchers =>
    simp only [tracedChunkMatches, hpattern, List.flatMap_nil, List.append_nil]
    refine ⟨h.moved_nodup, ?_, ?_⟩
    · have hrow := h.row_nodup
      rw [List.flatMap_map] at hrow ⊢
      exact (r.chunks_applyTraced_perm groups).nodup_iff.mpr hrow
    · have hclaimed := h.claimed_of_moved
      simp only [List.forall_mem_map] at hclaimed ⊢
      -- a group that takes up another one is claimed if one of the two is
      refine r.forall_applyTraced_of_tokens groups hpattern (fun _ _ hg => hg) ?_ hclaimed
      intro g next hg hnext i hi hmoved
      rcases List.mem_append.mp hi with hi | hi
      · exact Bool.or_eq_true_iff.mpr (.inl (hg i hi hmoved))
      · exact Bool.or_eq_true_iff.mpr (.inr (hnext i hi hmoved))

variable {r} {groups : List TracedGroup}

theorem mem_tracedSlotsIn_of_match {span : List (Traced Place)}
    (hspan : span ∈ r.tracedTokenMatches groups) {p : Traced Place} (hp : p ∈ span) :
    p.slot ∈ tracedSlotsIn groups := by
  unfold tracedTokenMatches at hspan
  split at hspan
  · cases hspan
  · rw [← map_slot_tracedPlacesFrom 0 groups]
    exact List.mem_map_of_mem (mem_of_mem_hits hspan hp)

theorem mem_groups_of_match {span : List TracedGroup} (hspan : span ∈ r.tracedChunkMatches groups)
    {g : TracedGroup} (hg : g ∈ span) : g ∈ groups := by
  unfold tracedChunkMatches at hspan
  split at hspan
  · exact mem_of_mem_hits hspan hg
  · cases hspan

end SyntacticRule

/-! ### Runs -/

namespace SyntacticTransfer

/-- If a pass moves only what was not moved before, and keeps it so, nothing is moved twice in a
run. -/
theorem nodup_matchesFrom {σ μ : Type} {found : SyntacticRule → σ → List μ}
    {pass : SyntacticRule → σ → σ} {sources : μ → List Nat} (marks : σ → List Mark)
    (hpass : ∀ r moved s, Claims moved (marks s) →
      Claims (moved ++ (found r s).flatMap sources) (marks (pass r s)))
    (rules : List SyntacticRule) : ∀ moved s, Claims moved (marks s) →
      (moved ++ (matchesFrom found pass rules s).flatMap sources).Nodup := by
  induction rules with
  | nil =>
    intro moved s h
    rw [matchesFrom, List.flatMap_nil, List.append_nil]
    exact h.moved_nodup
  | cons r rest ih =>
    intro moved s h
    rw [matchesFrom, List.flatMap_append, ← List.append_assoc]
    exact ih _ _ (hpass r moved s h)

/-- What holds of the matches of a pass in every state of a run holds of the matches of the run. -/
theorem forall_matchesFrom {σ μ : Type} {found : SyntacticRule → σ → List μ}
    {pass : SyntacticRule → σ → σ} {inv : σ → Prop} {p : μ → Prop}
    (hpass : ∀ r s, inv s → inv (pass r s)) (hfound : ∀ r s, inv s → ∀ m ∈ found r s, p m)
    (rules : List SyntacticRule) : ∀ s, inv s → ∀ m ∈ matchesFrom found pass rules s, p m := by
  induction rules with
  | nil => intro _ _; simp [matchesFrom]
  | cons r rest ih =>
    intro s h m hm
    rcases List.mem_append.mp hm with hm | hm
    · exact hfound r s h m hm
    · exact ih _ (hpass r s h) m hm

variable (t : SyntacticTransfer) (tree : ShallowTree)

theorem nodup_tokenMatches :
    ((t.tracedTokenMatches tree).flatMap (List.map Traced.index)).Nodup := by
  refine nodup_matchesFrom (fun groups => (tracedSlotsIn groups).map Traced.mark)
    (fun r _ _ h => r.claims_slots_applyTraced h) t.rules [] tree.trace (claims_start ?_)
  have hindices := (follows_trace tree).tokens.map Prod.snd
  rw [List.map_map, List.zipIdx_map_snd] at hindices
  rw [List.flatMap_map]
  have hrow : (tracedSlotsIn tree.trace).flatMap (fun s => s.mark.sources) =
      (tracedSlotsIn tree.trace).map Traced.index := List.map_eq_flatMap.symm
  rw [hrow]
  exact hindices.nodup_iff.mpr List.nodup_range'

theorem nodup_chunkMatches :
    ((t.tracedChunkMatches tree).flatMap (List.flatMap TracedGroup.chunks)).Nodup := by
  refine nodup_matchesFrom (List.map TracedGroup.mark)
    (fun r _ _ h => r.claims_groups_applyTraced h) t.rules [] tree.trace (claims_start ?_)
  rw [List.flatMap_map]
  exact (follows_trace tree).chunks.nodup_iff.mpr List.nodup_range

/-- The index of a matched token is its index in the tree. -/
theorem getElem?_tokenMatches : ∀ span ∈ t.tracedTokenMatches tree, ∀ p ∈ span,
    tree.tokens[p.index]? = some p.item.slot.token := by
  refine forall_matchesFrom (fun r _ h => h.applyTraced r) (fun r groups h span hspan p hp => ?_)
    t.rules tree.trace (follows_trace tree)
  have hslot := SyntacticRule.mem_tracedSlotsIn_of_match hspan hp
  exact List.mem_zipIdx_iff_getElem?.mp (h.tokens.mem_iff.mp (List.mem_map.mpr ⟨_, hslot, rfl⟩))

/-- A matched group is made of chunks of the tree and has the kind of the first of them. -/
theorem chunks_chunkMatches : ∀ span ∈ t.tracedChunkMatches tree, ∀ g ∈ span,
    (∀ i ∈ g.chunks, i < tree.chunks.length) ∧ tree.firstKind? g.chunks = some g.kind := by
  refine forall_matchesFrom (fun r _ h => h.applyTraced r) (fun r groups h span hspan g hg => ?_)
    t.rules tree.trace (follows_trace tree)
  have hgroup := SyntacticRule.mem_groups_of_match hspan hg
  refine ⟨fun i hi => ?_, h.kinds g hgroup⟩
  exact List.mem_range.mp (h.chunks.mem_iff.mp (List.mem_flatMap.mpr ⟨g, hgroup, hi⟩))

/-- In every transfer no two matches of token rules share a token of the tree, and no two matches of
chunk rules share a chunk of it, whichever groups the chunk has come to be a part of; nor does a
match have one of them twice. The matches are those of the rules (traced, they are the same), the
index of a matched token is that of the token in the tree, and a matched group is made of chunks of
the tree, where its kind is that of the first. -/
theorem moved_at_most_once :
    t.transfer tree =
        .ok (finish ((runTraced t.rules tree.trace).map TracedGroup.forget)) ∧
      (t.tokenMatches tree = (t.tracedTokenMatches tree).map (List.map Traced.item) ∧
        (∀ span ∈ t.tracedTokenMatches tree, ∀ p ∈ span,
          tree.tokens[p.index]? = some p.item.slot.token) ∧
        (∀ span ∈ t.tracedTokenMatches tree, (span.map Traced.index).Nodup) ∧
        (t.tracedTokenMatches tree).Pairwise fun span other =>
          (span.map Traced.index).Disjoint (other.map Traced.index)) ∧
      (t.chunkMatches tree = (t.tracedChunkMatches tree).map (List.map TracedGroup.forget) ∧
        (∀ span ∈ t.tracedChunkMatches tree, ∀ g ∈ span,
          (∀ i ∈ g.chunks, i < tree.chunks.length) ∧ tree.firstKind? g.chunks = some g.kind) ∧
        (∀ span ∈ t.tracedChunkMatches tree, (span.flatMap TracedGroup.chunks).Nodup) ∧
        (t.tracedChunkMatches tree).Pairwise fun span other =>
          (span.flatMap TracedGroup.chunks).Disjoint (other.flatMap TracedGroup.chunks)) := by
  obtain ⟨htokens, htokensApart⟩ := List.nodup_flatMap.mp (t.nodup_tokenMatches tree)
  obtain ⟨hchunks, hchunksApart⟩ := List.nodup_flatMap.mp (t.nodup_chunkMatches tree)
  have hrun : t.transfer tree =
      .ok (finish ((runTraced t.rules tree.trace).map TracedGroup.forget)) := by
    rw [map_forget_runTraced, map_forget_trace, t.transfer_eq_ok]
  refine ⟨hrun, ⟨t.tokenMatches_eq tree, t.getElem?_tokenMatches tree, htokens, htokensApart⟩, ?_⟩
  exact ⟨t.chunkMatches_eq tree, t.chunks_chunkMatches tree, hchunks, hchunksApart⟩

end SyntacticTransfer

end ShallowTransfer
