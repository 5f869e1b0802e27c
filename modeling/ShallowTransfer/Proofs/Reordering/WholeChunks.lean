import ShallowTransfer.Proofs.Reordering.Claiming

/-!
Transfer never splits a chunk. A pass of a chunk rule moves groups as they are. A pass of a token
rule deals the moved row out to groups of the old sizes, so a token may land in another group; but
only within its span, and all groups that a span reaches over are fused. So the pieces of the row
fall apart at the borders of the fused groups (`exists_parts`), and each fused group holds the
tokens of the groups that went into it, in another order. Through a run every group holds the tokens
of the chunks that it is made of (`Whole`), and with these chunks for parts the tree that comes out
is a partition of the tree that went in (`transfer_keeps_chunks_whole`).
-/

namespace ShallowTransfer

variable {α : Type}

/-- Pieces fall apart at a place that no span reaches over. -/
theorem exists_append_of_apart {p : α → Prop} : ∀ {pieces : List (Piece α)} {front back : List α},
    pieces.flatMap Piece.elements = front ++ back → (∀ x ∈ front, p x) → (∀ x ∈ back, ¬ p x) →
      (∀ span, Piece.hit span ∈ pieces → (∀ x ∈ span, p x) ∨ ∀ x ∈ span, ¬ p x) →
        ∃ before after, pieces = before ++ after ∧ before.flatMap Piece.elements = front ∧
          after.flatMap Piece.elements = back
  | [], front, back, hrow, _, _, _ => by
    obtain ⟨rfl, rfl⟩ := List.append_eq_nil_iff.mp hrow.symm
    exact ⟨[], [], rfl, rfl, rfl⟩
  | piece :: rest, [], back, hrow, _, _, _ => ⟨[], piece :: rest, rfl, rfl, hrow⟩
  | piece :: rest, x :: front, back, hrow, hfront, hback, hspans => by
    have hrest : ∀ span, Piece.hit span ∈ rest → (∀ y ∈ span, p y) ∨ ∀ y ∈ span, ¬ p y :=
      fun span h => hspans span (List.mem_cons_of_mem _ h)
    have hone : (∀ y ∈ piece.elements, p y) ∨ ∀ y ∈ piece.elements, ¬ p y := by
      cases piece with
      | kept y => simpa [Piece.elements] using em (p y)
      | hit span => exact hspans span List.mem_cons_self
    rw [List.flatMap_cons] at hrow
    -- the first piece ends inside the front, as it would else hold elements of both sides
    obtain ⟨more, hmore, hleft⟩ : ∃ more, x :: front = piece.elements ++ more ∧
        rest.flatMap Piece.elements = more ++ back := by
      rcases List.append_eq_append_iff.mp hrow with ⟨more, hmore, hleft⟩ | ⟨excess, hexcess, hleft⟩
      · exact ⟨more, hmore, hleft⟩
      · have hx : x ∈ piece.elements := by rw [hexcess]; exact List.mem_cons_self
        cases excess with
        | nil =>
          rw [List.append_nil] at hexcess
          exact ⟨[], by rw [List.append_nil, hexcess], hleft.symm⟩
        | cons y excess =>
          have hy : y ∈ piece.elements := by simp [hexcess]
          have hyback : ¬ p y := hback y (by simp [hleft])
          rcases hone with hall | hnone
          · exact absurd (hall y hy) hyback
          · exact absurd (hfront x List.mem_cons_self) (hnone x hx)
    rw [hmore] at hfront
    obtain ⟨before, after, rfl, hbefore, hafter⟩ := exists_append_of_apart hleft
      (fun y hy => hfront y (List.mem_append_right _ hy)) hback hrest
    refine ⟨piece :: before, after, rfl, ?_, hafter⟩
    rw [List.flatMap_cons, hbefore, hmore]

/-! ### Fused groups -/

theorem tracedPlacesFrom_cons (owner : Nat) (g : TracedGroup) (rest : List TracedGroup) :
    tracedPlacesFrom owner (g :: rest) =
      g.slots.map (fun s => ⟨⟨s.item, owner, g.kind⟩, s.index⟩) ++
        tracedPlacesFrom (owner + 1) rest := rfl

theorem pairwise_owner_traced (groups : List TracedGroup) :
    ((tracedPlacesFrom 0 groups).map Traced.item).Pairwise fun p q => p.owner ≤ q.owner := by
  rw [← placesFrom_map_forget]
  exact pairwise_owner 0 _

theorem le_owner_of_mem_traced {owner : Nat} {groups : List TracedGroup} {p : Traced Place}
    (h : p ∈ tracedPlacesFrom owner groups) : owner ≤ p.item.owner := by
  have hmem : p.item ∈ placesFrom owner (groups.map TracedGroup.forget) := by
    rw [placesFrom_map_forget]
    exact List.mem_map_of_mem h
  exact le_owner_of_mem hmem

/-- The group of a piece of the row: its slots are the elements of the pieces. -/
def Fills (part : List (Piece (Traced Place))) (g : TracedGroup) : Prop :=
  (part.flatMap Piece.elements).map Traced.slot = g.slots

/-- The pieces of a row fall apart into those of the fused groups, if no span reaches over the
border of a group that is not joined. The places `early` are those of groups before that are joined
with the first one. -/
theorem exists_parts {joined : Nat → Bool} : ∀ {rest : List TracedGroup} {g : TracedGroup}
    {index : Nat} {early : List (Traced Place)} {pieces : List (Piece (Traced Place))},
    pieces.flatMap Piece.elements = early ++ tracedPlacesFrom index (g :: rest) →
      (∀ p ∈ early, p.item.owner ≤ index) →
      (∀ span, Piece.hit span ∈ pieces → ∀ border, joined border = false →
        (∀ p ∈ span, p.item.owner < border) ∨ ∀ p ∈ span, ¬ p.item.owner < border) →
        ∃ part parts first more, pieces = part ++ parts.flatten ∧
          fuseTracedFrom joined index (g :: rest) = (joined index, first) :: more ∧
          (part.flatMap Piece.elements).map Traced.slot = early.map Traced.slot ++ first.slots ∧
          List.Forall₂ Fills parts (more.map (·.2))
  | [], g, index, early, pieces, hrow, _, _ => by
    refine ⟨pieces, [], g, [], by simp, rfl, ?_, List.Forall₂.nil⟩
    rw [hrow, List.map_append, map_slot_tracedPlacesFrom]
    simp [tracedSlotsIn]
  | g' :: rest, g, index, early, pieces, hrow, hearly, hspans => by
    rw [tracedPlacesFrom_cons, ← List.append_assoc] at hrow
    have hslots : (g.slots.map fun s => (⟨⟨s.item, index, g.kind⟩, s.index⟩ : Traced Place)).map
        Traced.slot = g.slots := by
      simp [Function.comp_def, Traced.slot]
    have hfront : ∀ p ∈ early ++ g.slots.map fun s => ⟨⟨s.item, index, g.kind⟩, s.index⟩,
        p.item.owner < index + 1 := by
      intro p hp
      rcases List.mem_append.mp hp with hp | hp
      · exact Nat.lt_succ_of_le (hearly p hp)
      · obtain ⟨s, -, rfl⟩ := List.mem_map.mp hp
        exact Nat.lt_succ_self index
    cases hjoined : joined (index + 1) with
    | true =>
      obtain ⟨part, parts, first, more, hpieces, hfuse, hpart, hparts⟩ :=
        exists_parts hrow (fun p hp => Nat.le_of_lt (hfront p hp)) hspans
      refine ⟨part, parts, g.fuse first, more, hpieces, ?_, ?_, hparts⟩
      · rw [fuseTracedFrom, hfuse, hjoined]
        rfl
      · rw [hpart, List.map_append, hslots, List.append_assoc]
        rfl
    | false =>
      obtain ⟨before, after, rfl, hbefore, hafter⟩ := exists_append_of_apart hrow hfront
        (fun p hp => Nat.not_lt.mpr (le_owner_of_mem_traced hp))
        (fun span hspan => hspans span hspan (index + 1) hjoined)
      obtain ⟨part, parts, first, more, rfl, hfuse, hpart, hparts⟩ :=
        exists_parts (by rwa [List.nil_append]) (fun p hp => absurd hp List.not_mem_nil)
          (fun span hspan => hspans span (List.mem_append_right _ hspan))
      refine ⟨before, part :: parts, g, (joined (index + 1), first) :: more, rfl, ?_, ?_, ?_⟩
      · rw [fuseTracedFrom, hfuse, hjoined]
        rfl
      · rw [hbefore, List.map_append, hslots]
      · exact List.Forall₂.cons hpart hparts

/-- Filling groups and fusing them is fusing them and filling the fused ones. -/
theorem fuseTracedFrom_refillTraced (joined : Nat → Bool) :
    ∀ (index : Nat) (groups : List TracedGroup) (slots : List (Traced Slot)),
      (fuseTracedFrom joined index (refillTraced groups slots)).map (·.1) =
          (fuseTracedFrom joined index groups).map (·.1) ∧
        (fuseTracedFrom joined index (refillTraced groups slots)).map (·.2) =
          refillTraced ((fuseTracedFrom joined index groups).map (·.2)) slots
  | _, [], _ => ⟨rfl, rfl⟩
  | index, g :: rest, slots => by
    obtain ⟨hflags, hgroups⟩ :=
      fuseTracedFrom_refillTraced joined (index + 1) rest (slots.drop g.slots.length)
    rw [refillTraced, fuseTracedFrom, fuseTracedFrom]
    generalize fuseTracedFrom joined (index + 1) rest = fused at hflags hgroups ⊢
    generalize fuseTracedFrom joined (index + 1)
      (refillTraced rest (slots.drop g.slots.length)) = filled at hflags hgroups ⊢
    cases fused with
    | nil =>
      obtain rfl := List.map_eq_nil_iff.mp hflags
      exact ⟨rfl, rfl⟩
    | cons e more =>
      obtain ⟨flag, next⟩ := e
      cases filled with
      | nil => cases hflags
      | cons e' more' =>
        obtain ⟨flag', next'⟩ := e'
        simp only [List.map_cons, refillTraced, List.cons.injEq] at hflags hgroups
        obtain ⟨rfl, hflags⟩ := hflags
        obtain ⟨rfl, hgroups⟩ := hgroups
        cases flag' with
        | false =>
          simp [fuseTracedOnto, refillTraced, hflags, hgroups]
        | true =>
          simp [fuseTracedOnto, refillTraced, hflags, hgroups, TracedGroup.fuse, List.take_add]

/-! ### Groups that hold the tokens of their chunks -/

/-- A group holds the tokens of the chunks that it is made of, in any order. -/
def Whole (tree : ShallowTree) (g : TracedGroup) : Prop :=
  (g.slots.map fun s => s.item.token).Perm
    ((rearrange g.chunks tree.chunks).flatMap Chunk.tokens)

theorem rearrange_append (indices more : List Nat) (xs : List α) :
    rearrange (indices ++ more) xs = rearrange indices xs ++ rearrange more xs :=
  List.filterMap_append

theorem Whole.fuse {tree : ShallowTree} {g next : TracedGroup} (hg : Whole tree g)
    (hnext : Whole tree next) : Whole tree (g.fuse next) := by
  have hboth := List.Perm.append hg hnext
  rwa [← List.map_append, ← List.flatMap_append, ← rearrange_append] at hboth

/-- Groups that take up the moved pieces of their own slots hold the tokens of their chunks. -/
theorem whole_refillTraced {tree : ShallowTree} {order : List Nat}
    {parts : List (List (Piece (Traced Place)))} {groups : List TracedGroup}
    (h : List.Forall₂ Fills parts groups)
    (hperm : ∀ span, Piece.hit span ∈ parts.flatten → (rearrange order span).Perm span)
    (hwhole : ∀ g ∈ groups, Whole tree g) :
    ∀ g ∈ refillTraced groups
      (parts.flatten.flatMap (movePiece order Traced.slot Traced.claimedSlot)), Whole tree g := by
  induction h with
  | nil => simp [refillTraced]
  | @cons part g parts groups hfills _ ih =>
    rw [List.flatten_cons] at hperm ⊢
    rw [List.forall_mem_cons] at hwhole
    have hpart : ∀ span, Piece.hit span ∈ part → (rearrange order span).Perm span :=
      fun span hspan => hperm span (List.mem_append_left _ hspan)
    have htokens : ((part.flatMap (movePiece order Traced.slot Traced.claimedSlot)).map
        fun s => s.item.token).Perm (g.slots.map fun s => s.item.token) := by
      rw [← hfills, List.map_map]
      exact map_pieces_perm hpart (by intro _; rfl) (by intro _; rfl)
    have hlen : (part.flatMap (movePiece order Traced.slot Traced.claimedSlot)).length =
        g.slots.length := by
      have := htokens.length_eq
      rwa [List.length_map, List.length_map] at this
    rw [List.flatMap_append, refillTraced, ← hlen, List.take_left, List.drop_left,
      List.forall_mem_cons]
    exact ⟨htokens.trans hwhole.1,
      ih (fun span hspan => hperm span (List.mem_append_right _ hspan)) hwhole.2⟩

namespace SyntacticRule

variable (r : SyntacticRule) {groups : List TracedGroup}

/-- A span reaches over no border that is not joined. -/
theorem not_over_border {matchers : List TagMatcher} {border : Nat} {span : List (Traced Place)}
    (hspan : Piece.hit span ∈ r.tracedPlacePieces matchers groups)
    (hborder : joins ((hits (r.tracedPlacePieces matchers groups)).map (List.map Traced.item))
      border = false) :
    (∀ p ∈ span, p.item.owner < border) ∨ ∀ p ∈ span, ¬ p.item.owner < border := by
  cases hcase : span with
  | nil => exact .inl (by simp)
  | cons p rest =>
    rw [← hcase]
    have hsorted : (span.map Traced.item).Pairwise fun p q => p.owner ≤ q.owner := by
      have hrow := pairwise_owner_traced groups
      rw [← flatMap_elements_cutRow (matchers.length - 1)
        (fun span => r.fitsPlaces matchers (span.map Traced.item))
        (tracedPlacesFrom 0 groups), List.pairwise_map] at hrow
      rw [List.pairwise_map]
      exact hrow.sublist (List.sublist_flatten_of_mem (List.mem_map_of_mem hspan))
    obtain ⟨first, -, last, -, howners, hbetween⟩ := exists_spanOwners (by simp [hcase]) hsorted
    have hover : ¬ (first.owner < border ∧ border ≤ last.owner) := by
      rw [← Bool.not_eq_true] at hborder
      intro hover
      refine hborder (List.any_eq_true.mpr ⟨_, List.mem_map_of_mem (mem_hits.mpr hspan), ?_⟩)
      simpa [howners] using hover
    rw [List.forall_mem_map] at hbetween
    by_cases hlast : last.owner < border
    · exact .inl fun p hp => Nat.lt_of_le_of_lt (hbetween p hp).2 hlast
    · refine .inr fun p hp => ?_
      have := (hbetween p hp).1
      omega

/-- What holds of all groups before a pass of a chunk rule holds of them after it, if it has nothing
to do with the claims. -/
theorem forall_applyTraced_of_chunks {kinds : List ChunkKind} (h : r.pattern = .chunks kinds)
    {p : TracedGroup → Prop} (hclaim : ∀ g, p g → p g.claim) (hall : ∀ g ∈ groups, p g) :
    ∀ g ∈ r.applyTraced groups, p g := by
  have hsize := length_of_chunks h
  rw [r.applyTraced_of_chunks groups h, tracedGroupPieces, hsize]
  intro g hg
  obtain ⟨piece, hpiece, hmoved⟩ := List.mem_flatMap.mp hg
  have hrow : ∀ g ∈ piece.elements, p g := fun g hg => by
    refine hall g ?_
    rw [← flatMap_elements_cutRow _ _ groups]
    exact List.mem_flatMap.mpr ⟨piece, hpiece, hg⟩
  cases piece with
  | kept g' => exact hrow g hmoved
  | hit span =>
    obtain ⟨g', hg', rfl⟩ := List.mem_map.mp hmoved
    exact hclaim g' (hrow g' ((r.rearrange_perm_of_mem_cutRow hpiece).mem_iff.mp hg'))

/-- A pass leaves groups that hold the tokens of their chunks. -/
theorem whole_applyTraced {tree : ShallowTree} (hwhole : ∀ g ∈ groups, Whole tree g) :
    ∀ g ∈ r.applyTraced groups, Whole tree g := by
  cases hpattern : r.pattern with
  | chunks kinds => exact r.forall_applyTraced_of_chunks hpattern (fun _ hg => hg) hwhole
  | tokens matchers =>
    have hsize := length_of_tokens hpattern
    simp only [applyTraced, hpattern]
    rw [(fuseTracedFrom_refillTraced _ 0 groups _).2]
    cases groups with
    | nil => simp [fuseTracedFrom, refillTraced]
    | cons g rest =>
      have hrow : (r.tracedPlacePieces matchers (g :: rest)).flatMap Piece.elements =
          [] ++ tracedPlacesFrom 0 (g :: rest) := flatMap_elements_cutRow _ _ _
      obtain ⟨part, parts, first, more, hpieces, hfuse, hpart, hparts⟩ := exists_parts hrow
        (by simp) (fun span hspan border hborder => r.not_over_border hspan hborder)
      have hfused := forall_fuseTracedFrom (fun _ _ => Whole.fuse)
        (joins ((hits (r.tracedPlacePieces matchers (g :: rest))).map (List.map Traced.item))) 0
        hwhole
      rw [hfuse, List.map_cons] at hfused ⊢
      have hfills : List.Forall₂ Fills (part :: parts) (first :: more.map (·.2)) :=
        List.Forall₂.cons hpart hparts
      have hperm : ∀ span, Piece.hit span ∈ (part :: parts).flatten →
          (rearrange r.order span).Perm span := by
        rw [List.flatten_cons, ← hpieces, tracedPlacePieces, hsize]
        exact fun _ hspan => r.rearrange_perm_of_mem_cutRow hspan
      have hfilled := whole_refillTraced hfills hperm hfused
      rwa [List.flatten_cons, ← hpieces] at hfilled

end SyntacticRule

/-! ### Runs -/

/-- The first of the chunks with given indices has the kind that is expected of them. -/
theorem ShallowTree.head?_of_firstKind? {tree : ShallowTree} {chunks : List Nat} {kind : ChunkKind}
    (h : tree.firstKind? chunks = some kind) :
    (rearrange chunks tree.chunks).head?.map Chunk.kind = some kind := by
  obtain ⟨c, hc, rfl⟩ := Option.map_eq_some_iff.mp h
  obtain ⟨i, hi, hget⟩ := Option.bind_eq_some_iff.mp hc
  obtain ⟨rest, rfl⟩ := List.head?_eq_some_iff.mp hi
  rw [rearrange, List.filterMap_cons, hget]
  rfl

/-- Before a run each group holds the tokens of its chunk. -/
theorem whole_traceFrom (chunks : List Chunk) : ∀ (before : List Chunk) (token : Nat),
    ∀ g ∈ traceFrom before.length token chunks, Whole ⟨before ++ chunks⟩ g := by
  induction chunks with
  | nil => intro _ _; simp [traceFrom]
  | cons c rest ih =>
    intro before token
    have hrest := ih (before ++ [c]) (token + c.tokens.length)
    rw [List.length_append, List.length_singleton, List.append_assoc,
      List.singleton_append] at hrest
    rw [traceFrom, List.forall_mem_cons]
    refine ⟨?_, hrest⟩
    simp [Whole, rearrange, Function.comp_def]

namespace SyntacticTransfer

/-- What every pass keeps a whole run keeps. -/
theorem runTraced_induction {p : List TracedGroup → Prop} {rules : List SyntacticRule}
    (hpass : ∀ r ∈ rules, ∀ groups, p groups → p (r.applyTraced groups)) :
    ∀ {groups : List TracedGroup}, p groups → p (runTraced rules groups) := by
  induction rules with
  | nil => exact id
  | cons r rest ih =>
    intro groups h
    rw [List.forall_mem_cons] at hpass
    exact ih hpass.2 (hpass.1 groups h)

variable (t : SyntacticTransfer) (tree : ShallowTree)

theorem follows_runTraced : Follows tree (runTraced t.rules tree.trace) :=
  runTraced_induction (fun r _ _ h => h.applyTraced r) (follows_trace tree)

theorem whole_runTraced : ∀ g ∈ runTraced t.rules tree.trace, Whole tree g :=
  runTraced_induction (p := fun groups => ∀ g ∈ groups, Whole tree g)
    (fun r _ _ h => r.whole_applyTraced h) (whole_traceFrom tree.chunks [] 0)

/-- Token rules leave the chunks in their order. -/
theorem chunks_runTraced_of_tokens (h : ∀ r ∈ t.rules, r.level = .token) :
    (runTraced t.rules tree.trace).flatMap TracedGroup.chunks = List.range tree.chunks.length := by
  refine runTraced_induction
    (p := fun groups => groups.flatMap TracedGroup.chunks = List.range tree.chunks.length)
    (fun r hr groups hrow => ?_) ?_
  · cases hpattern : r.pattern with
    | chunks kinds =>
      have hlevel := h r hr
      rw [SyntacticRule.level, hpattern] at hlevel
      cases hlevel
    | tokens matchers => rw [r.chunks_applyTraced_of_tokens groups hpattern, hrow]
  · exact (chunks_traceFrom tree.chunks 0 0).trans List.range_eq_range'.symm

/-- Chunk rules leave the chunks as they are, in another order. -/
theorem chunks_finish_perm_of_chunks (rules : List SyntacticRule)
    (h : ∀ r ∈ rules, r.level = .chunk) : ∀ groups : List Group,
      (finish (run rules groups)).chunks.Perm (groups.map Group.toChunk) := by
  induction rules with
  | nil => exact fun _ => .refl _
  | cons r rest ih =>
    intro groups
    rw [List.forall_mem_cons] at h
    refine (ih h.2 (r.apply groups)).trans ?_
    cases hpattern : r.pattern with
    | chunks kinds =>
      have hsize := SyntacticRule.length_of_chunks hpattern
      rw [r.apply_of_chunks groups hpattern, funext r.moveGroups_eq, SyntacticRule.groupPieces,
        hsize]
      exact r.map_movePiece_perm (by intro _; rfl) (by intro _; rfl)
    | tokens matchers =>
      have hlevel := h.1
      rw [SyntacticRule.level, hpattern] at hlevel
      cases hlevel

theorem map_toChunk_start : (start tree).map Group.toChunk = tree.chunks := by
  rw [start, List.map_map]
  conv_rhs => rw [← List.map_id tree.chunks]
  refine List.map_congr_left fun c _ => ?_
  simp [Group.ofChunk, Group.toChunk, Function.comp_def]

/-- The chunks that the groups after the run are made of. -/
def parts : List (List Chunk) :=
  (runTraced t.rules tree.trace).map fun g => rearrange g.chunks tree.chunks

theorem flatten_parts : (t.parts tree).flatten =
    rearrange ((runTraced t.rules tree.trace).flatMap TracedGroup.chunks) tree.chunks := by
  rw [parts, rearrange, List.filterMap_flatMap, List.flatMap_def]
  rfl

theorem flatten_parts_perm : (t.parts tree).flatten.Perm tree.chunks := by
  have hchunks := (t.follows_runTraced tree).chunks.filterMap fun i => tree.chunks[i]?
  rw [← rearrange, ← rearrange, rearrange_range] at hchunks
  rwa [flatten_parts]

/-- What holds of each group after the run and its chunks holds of the chunks of the output and
their parts. -/
theorem forall₂_parts {R : List Chunk → Chunk → Prop}
    (h : ∀ g ∈ runTraced t.rules tree.trace,
      R (rearrange g.chunks tree.chunks) g.forget.toChunk) :
    List.Forall₂ R (t.parts tree)
      (finish ((runTraced t.rules tree.trace).map TracedGroup.forget)).chunks := by
  rw [parts, finish, List.map_map, List.forall₂_map_left_iff, List.forall₂_map_right_iff,
    List.forall₂_same]
  exact h

/-- In every transfer the chunks of the input are parted among those of the output: each of these
holds exactly the tokens of its part, in some order, and has the label of a chunk of its part. Where
all rules are about tokens the parts put together are the chunks in their old order, and each chunk
has the label of the first one of its part; where all are about chunks these only change places. -/
theorem transfer_keeps_chunks_whole :
    ∃ output parts, t.transfer tree = .ok output ∧ parts.flatten.Perm tree.chunks ∧
      List.Forall₂ (fun (part : List Chunk) (c : Chunk) =>
        c.tokens.Perm (part.flatMap Chunk.tokens) ∧ ∃ d ∈ part, d.kind = c.kind)
          parts output.chunks ∧
      ((∀ r ∈ t.rules, r.level = .token) →
        parts.flatten = tree.chunks ∧
          List.Forall₂ (fun part c => part.head?.map Chunk.kind = some c.kind)
            parts output.chunks) ∧
      ((∀ r ∈ t.rules, r.level = .chunk) → output.chunks.Perm tree.chunks) := by
  have hhead : ∀ g ∈ runTraced t.rules tree.trace,
      (rearrange g.chunks tree.chunks).head?.map Chunk.kind = some g.kind := fun g hg =>
    ShallowTree.head?_of_firstKind? ((t.follows_runTraced tree).kinds g hg)
  refine ⟨finish ((runTraced t.rules tree.trace).map TracedGroup.forget), t.parts tree, ?_,
    t.flatten_parts_perm tree, t.forall₂_parts tree fun g hg => ⟨?_, ?_⟩,
    fun hlevel => ⟨?_, t.forall₂_parts tree hhead⟩, fun hlevel => ?_⟩
  · rw [map_forget_runTraced, map_forget_trace, t.transfer_eq_ok]
  · have hwhole := t.whole_runTraced tree g hg
    rwa [Whole, ← Function.comp_def, ← List.map_map] at hwhole
  · obtain ⟨d, hd, hkind⟩ := Option.map_eq_some_iff.mp (hhead g hg)
    exact ⟨d, List.mem_of_head? hd, hkind⟩
  · rw [flatten_parts, t.chunks_runTraced_of_tokens tree hlevel, rearrange_range]
  · rw [map_forget_runTraced, map_forget_trace]
    have hchunks := chunks_finish_perm_of_chunks t.rules hlevel (start tree)
    rwa [map_toChunk_start] at hchunks

/-- A rule that puts an adjective before the noun on its left. -/
def adjectiveFirst : SyntacticRule :=
  ⟨"adjective first", .tokens [.whole "n", .whole "a"], [1, 0], [], false, by decide⟩

/-- A noun and an adjective in chunks of their own, with an empty chunk between them. -/
def nounAndAdjective : ShallowTree :=
  ⟨[⟨.nounPhrase, [⟨⟨"casa", 0⟩, "n", .lexicon⟩]⟩, ⟨.other, []⟩,
    ⟨.adjectivePhrase, [⟨⟨"roja", 1⟩, "a", .lexicon⟩]⟩]⟩

theorem transfer_nounAndAdjective : transfer ⟨[adjectiveFirst]⟩ nounAndAdjective =
    .ok ⟨[⟨.nounPhrase, [⟨⟨"roja", 1⟩, "a", .lexicon⟩, ⟨⟨"casa", 0⟩, "n", .lexicon⟩]⟩]⟩ := by
  rw [transfer_eq_ok]
  decide +kernel

/-- The two words and the empty chunk between them become one noun phrase. -/
theorem transfer_keeps_chunks_whole_nounAndAdjective :
    ∃ part : List Chunk, part = nounAndAdjective.chunks ∧
      [(⟨⟨"roja", 1⟩, "a", .lexicon⟩ : TaggedToken), ⟨⟨"casa", 0⟩, "n", .lexicon⟩].Perm
        (part.flatMap Chunk.tokens) ∧ part.head?.map Chunk.kind = some .nounPhrase := by
  obtain ⟨output, parts, houtput, -, htokens, hlevel, -⟩ :=
    transfer_keeps_chunks_whole ⟨[adjectiveFirst]⟩ nounAndAdjective
  rw [transfer_nounAndAdjective, Except.ok.injEq] at houtput
  subst houtput
  obtain ⟨hparts, hkinds⟩ := hlevel (by decide)
  cases htokens with
  | @cons part _ _ _ hpart hrest =>
    cases hrest
    cases hkinds with
    | cons hkind _ =>
      exact ⟨part, by simpa using hparts, hpart.1, hkind⟩

end SyntacticTransfer

end ShallowTransfer
