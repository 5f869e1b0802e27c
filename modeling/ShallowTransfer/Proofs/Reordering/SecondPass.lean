import ShallowTransfer.Proofs.Reordering.InsideChunks

/-!
A rule never fires on what its own pass has left. The elements that a pass moves are claimed, so a
match after it would be one of elements that the pass has left in their places. What can have
changed for these is the group that they are in: the pass fuses groups, and a token may find itself
in a group of another kind. But a group is only fused with those before it by a span that reaches
into it, and then all its tokens are where the rule may match (`admits_of_joins`). So the window was
a match before the pass, and would have been taken up (`not_matchesAt_apply`). A rule that matches
nothing changes nothing (`apply_of_no_match`), hence a second pass is none (`apply_apply`).
-/

namespace ShallowTransfer

variable {α β : Type}

/-! ### Rows without matches -/

theorem map_kept_of_no_hit : ∀ {pieces : List (Piece α)}, (∀ span, Piece.hit span ∉ pieces) →
    (pieces.flatMap Piece.elements).map Piece.kept = pieces
  | [], _ => rfl
  | .kept x :: rest, h => by
    rw [List.flatMap_cons, Piece.elements, List.singleton_append, List.map_cons,
      map_kept_of_no_hit fun span hspan => h span (List.mem_cons_of_mem _ hspan)]
  | .hit span :: _, h => absurd List.mem_cons_self (h span)

/-- A row in which nothing is to be rewritten is cut into its elements. -/
theorem cutRow_of_no_start {k : Nat} {fits : List α → Bool} {row : List α}
    (h : ∀ s, s ∉ hitStarts (cutRow k fits row)) : cutRow k fits row = row.map Piece.kept := by
  have hnone : ∀ span, Piece.hit span ∉ cutRow k fits row := by
    intro span hspan
    obtain ⟨before, after, hpieces⟩ := List.append_of_mem hspan
    exact h _ ⟨before, span, after, hpieces, rfl⟩
  conv_rhs => rw [← flatMap_elements_cutRow k fits row]
  exact (map_kept_of_no_hit hnone).symm

theorem hits_map_kept (row : List α) : hits (row.map Piece.kept) = [] := by
  rw [hits, List.filterMap_map]
  exact List.filterMap_eq_nil_iff.mpr fun _ _ => rfl

theorem flatMap_movePiece_map_kept {order : List Nat} {keep claim : α → β} (row : List α) :
    (row.map Piece.kept).flatMap (movePiece order keep claim) = row.map keep := by
  rw [List.flatMap_map, List.map_eq_flatMap]
  rfl

/-- What is not claimed in a rewritten row has been in its place before, outside of all spans. -/
theorem Rewritten.of_unclaimed {order : List Nat} {claim : β → β} {starts : Set Nat}
    {row row' : List β} (h : Rewritten order claim starts row row') (claimed : β → Bool)
    (hclaim : ∀ x, claimed (claim x) = true) {n : Nat} {x : β} (hx : row'[n]? = some x)
    (hfree : claimed x = false) :
    (∀ s ∈ starts, n < s ∨ s + order.length ≤ n) ∧ row[n]? = some x := by
  have hout : ∀ s ∈ starts, n < s ∨ s + order.length ≤ n := by
    intro s hs
    by_contra hin
    obtain ⟨i, rfl⟩ : ∃ i, n = s + i := ⟨n - s, by omega⟩
    have hi : i < order.length := by omega
    obtain ⟨y, -, hy⟩ := h.moved s hs i _ (List.getElem?_eq_getElem hi)
    rw [hx, Option.some.injEq] at hy
    rw [hy, hclaim] at hfree
    cases hfree
  exact ⟨hout, (h.kept n hout) ▸ hx⟩

/-! ### The groups of a row -/

/-- The group that a place is in, by its index, and the kind of this group. -/
def Place.home (p : Place) : Nat × ChunkKind :=
  (p.owner, p.kind)

/-- The kinds of the groups that the slots of a row are in. -/
def kindsIn (groups : List Group) : List ChunkKind :=
  groups.flatMap fun g => g.slots.map fun _ => g.kind

theorem map_home_placesFrom_cons (owner : Nat) (g : Group) (rest : List Group) :
    (placesFrom owner (g :: rest)).map Place.home =
      (g.slots.map fun _ => (owner, g.kind)) ++ (placesFrom (owner + 1) rest).map Place.home := by
  rw [placesFrom, List.map_append, List.map_map]
  rfl

theorem map_kind_placesFrom : ∀ (owner : Nat) (groups : List Group),
    (placesFrom owner groups).map Place.kind = kindsIn groups
  | _, [] => rfl
  | owner, g :: rest => by
    rw [placesFrom, List.map_append, map_kind_placesFrom (owner + 1) rest, List.map_map]
    rfl

/-- Groups of the same kinds and sizes have their places in the same groups. -/
theorem map_home_placesFrom_congr {groups groups' : List Group}
    (h : List.Forall₂ (fun g g' => g'.kind = g.kind ∧ g'.slots.length = g.slots.length)
      groups groups') : ∀ owner, (placesFrom owner groups').map Place.home =
        (placesFrom owner groups).map Place.home := by
  induction h with
  | nil => exact fun _ => rfl
  | cons hg _ ih =>
    intro owner
    rw [map_home_placesFrom_cons, map_home_placesFrom_cons, ih, hg.1, List.map_const', hg.2,
      List.map_const']

theorem forall₂_refill : ∀ {groups : List Group} {slots : List Slot},
    slots.length = (slotsIn groups).length →
      List.Forall₂ (fun g g' => g'.kind = g.kind ∧ g'.slots.length = g.slots.length) groups
        (refill groups slots)
  | [], _, _ => .nil
  | g :: rest, slots, h => by
    rw [slotsIn_cons, List.length_append] at h
    have hrest : (slots.drop g.slots.length).length = (slotsIn rest).length := by
      rw [List.length_drop]
      omega
    refine .cons ⟨rfl, ?_⟩ (forall₂_refill hrest)
    rw [List.length_take]
    omega

/-- Places in the same group are in a group of the same kind. -/
theorem kind_eq_of_owner_eq : ∀ {owner : Nat} {groups : List Group} {p q : Place},
    p ∈ placesFrom owner groups → q ∈ placesFrom owner groups → p.owner = q.owner →
      p.kind = q.kind
  | _, [], _, _, hp, _, _ => nomatch hp
  | owner, g :: rest, p, q, hp, hq, heq => by
    rcases List.mem_append.mp hp with hp | hp <;> rcases List.mem_append.mp hq with hq | hq
    · obtain ⟨s, -, rfl⟩ := List.mem_map.mp hp
      obtain ⟨t, -, rfl⟩ := List.mem_map.mp hq
      rfl
    · obtain ⟨s, -, rfl⟩ := List.mem_map.mp hp
      have := le_owner_of_mem hq
      simp only at heq
      omega
    · obtain ⟨t, -, rfl⟩ := List.mem_map.mp hq
      have := le_owner_of_mem hp
      simp only at heq
      omega
    · exact kind_eq_of_owner_eq hp hq heq

/-! ### The kinds after fusing -/

/-- Groups on the way through fusing: the first one, if it is marked, goes into a group of the given
kind. -/
def settle (kind : ChunkKind) : List (Bool × Group) → List Group
  | (true, g) :: rest => { g with kind := kind } :: rest.map (·.2)
  | rest => rest.map (·.2)

theorem exists_settle (groups : List (Bool × Group)) :
    ∃ kind, settle kind groups = groups.map (·.2) := by
  cases groups with
  | nil => exact ⟨.other, rfl⟩
  | cons e rest =>
    obtain ⟨joined, g⟩ := e
    refine ⟨g.kind, ?_⟩
    cases joined <;> rfl

/-- A group that comes before others hands on its kind, which is that of the group before it if the
two are fused. -/
theorem kindsIn_settle_fuseOnto (kind : ChunkKind) (joined : Bool) (g : Group)
    (groups : List (Bool × Group)) :
    kindsIn (settle kind (fuseOnto joined g groups)) =
      (g.slots.map fun _ => if joined then kind else g.kind) ++
        kindsIn (settle (if joined then kind else g.kind) groups) := by
  unfold fuseOnto
  split
  · next next rest =>
    cases joined <;>
      simp only [settle, kindsIn, List.flatMap_cons, List.map_cons, List.map_append,
        List.append_assoc, if_true, Bool.false_eq_true, if_false]
  · next hnot =>
    have hfirst : ∀ kind, settle kind groups = groups.map (·.2) := by
      intro kind
      cases groups with
      | nil => rfl
      | cons e rest =>
        obtain ⟨marked, next⟩ := e
        cases marked with
        | false => rfl
        | true => exact absurd rfl (hnot next rest)
    rw [hfirst]
    cases joined <;> simp [settle, kindsIn]

/-- If the slots of all groups that are fused with those before them are in groups of allowed kinds,
a slot that is in an allowed group after fusing was in one before. -/
theorem forall₂_kindsIn_fuseFrom {joined : Nat → Bool} {allowed : ChunkKind → Prop} :
    ∀ {index : Nat} {groups : List Group} (kind : ChunkKind),
      (∀ h ∈ (placesFrom index groups).map Place.home, joined h.1 = true → allowed h.2) →
      List.Forall₂ (fun before after => allowed after → allowed before) (kindsIn groups)
        (kindsIn (settle kind (fuseFrom joined index groups)))
  | _, [], _, _ => .nil
  | index, g :: rest, kind, h => by
    rw [map_home_placesFrom_cons, List.forall_mem_append] at h
    have hrest := forall₂_kindsIn_fuseFrom (if joined index then kind else g.kind) h.2
    rw [fuseFrom, kindsIn_settle_fuseOnto]
    refine List.rel_append ?_ hrest
    rw [List.forall₂_map_left_iff, List.forall₂_map_right_iff, List.forall₂_same]
    intro s hs hafter
    cases hjoined : joined index with
    | false => simpa [hjoined] using hafter
    | true => exact h.1 _ (List.mem_map.mpr ⟨s, hs, rfl⟩) hjoined

namespace SyntacticRule

variable {r : SyntacticRule} {matchers : List TagMatcher} {groups : List Group}

/-! ### A match after a pass -/

/-- The rule may match in groups of the kind. -/
def Admits (r : SyntacticRule) (kind : ChunkKind) : Prop :=
  r.within = [] ∨ kind ∈ r.within

theorem flatMap_elements_placePieces (r : SyntacticRule) (matchers : List TagMatcher)
    (groups : List Group) :
    (r.placePieces matchers groups).flatMap Piece.elements = placesFrom 0 groups :=
  flatMap_elements_cutRow _ _ _

/-- The spans of a pass are matches. -/
theorem matchesPlaces_of_mem_hits (hpattern : r.pattern = .tokens matchers) {span : List Place}
    (hspan : span ∈ hits (r.placePieces matchers groups)) : r.MatchesPlaces matchers span := by
  have hmem := mem_hits.mp hspan
  have hne := ne_nil_of_tokens hpattern
  have hsorted : span.Pairwise fun p q => p.owner ≤ q.owner := by
    refine (pairwise_owner 0 groups).sublist ?_
    rw [← r.flatMap_elements_placePieces matchers groups]
    exact List.sublist_flatten_of_mem (List.mem_map_of_mem hmem)
  obtain ⟨hlength, hfits⟩ := hit_of_mem_cutRow hmem
  have hpos := List.length_pos_iff.mpr hne
  exact (r.matchesPlaces_iff hne hsorted).mpr ⟨by omega, hfits⟩

theorem admits_of_mem_hits (hpattern : r.pattern = .tokens matchers) {span : List Place}
    (hspan : span ∈ hits (r.placePieces matchers groups)) : ∀ p ∈ span, r.Admits p.kind := by
  have hadmits : List.Forall₂ (fun p _ => r.Admits p.kind ∧ True) span matchers :=
    (matchesPlaces_of_mem_hits hpattern hspan).1.imp fun _ _ h => ⟨h.2.2, trivial⟩
  exact ((List.forall₂_and_left span matchers).mp hadmits).1

/-- The tokens of a group that a span reaches into from groups before it are where the rule may
match: either the span ends in this group, or it takes up all of them. -/
theorem admits_of_joins (hpattern : r.pattern = .tokens matchers) {p : Place}
    (hp : p ∈ placesFrom 0 groups)
    (hjoins : joins (hits (r.placePieces matchers groups)) p.owner = true) : r.Admits p.kind := by
  obtain ⟨span, hspan, hover⟩ := List.any_eq_true.mp hjoins
  obtain ⟨before, after, hpieces⟩ := List.append_of_mem (mem_hits.mp hspan)
  have hrow : placesFrom 0 groups =
      before.flatMap Piece.elements ++ (span ++ after.flatMap Piece.elements) := by
    rw [← r.flatMap_elements_placePieces matchers groups, hpieces,
      List.flatMap_append, List.flatMap_cons]
    rfl
  have hsorted := pairwise_owner 0 groups
  rw [hrow, List.pairwise_append, List.pairwise_append] at hsorted
  obtain ⟨-, ⟨hspanSorted, -, hbehind⟩, hbefore⟩ := hsorted
  have hne : span ≠ [] := by
    rintro rfl
    cases hover
  obtain ⟨first, hfirst, last, hlast, howners, -⟩ := exists_spanOwners hne hspanSorted
  have hover : first.owner < p.owner ∧ p.owner ≤ last.owner := by simpa [howners] using hover
  have hlastRow : last ∈ placesFrom 0 groups := by simp [hrow, hlast]
  have hcases := hp
  rw [hrow, List.mem_append, List.mem_append] at hcases
  rcases hcases with hin | hin | hin
  · have := hbefore p hin first (List.mem_append_left _ hfirst)
    omega
  · exact admits_of_mem_hits hpattern hspan p hin
  · have howner : p.owner = last.owner := Nat.le_antisymm hover.2 (hbehind last hlast p hin)
    rw [kind_eq_of_owner_eq hp hlastRow howner]
    exact admits_of_mem_hits hpattern hspan last hlast

/-- Where the rule may match after its pass it might have done so before. -/
theorem forall₂_kindsIn_apply (hpattern : r.pattern = .tokens matchers) (groups : List Group) :
    List.Forall₂ (fun before after => r.Admits after → r.Admits before) (kindsIn groups)
      (kindsIn (r.apply groups)) := by
  have hlength : ((r.placePieces matchers groups).flatMap r.moveSlots).length =
      (slotsIn groups).length := by
    rw [← r.slotsIn_apply_of_tokens groups hpattern]
    exact (r.rewritten_apply_of_tokens groups hpattern).length_eq
  simp only [apply, hpattern]
  have hhomes := map_home_placesFrom_congr (forall₂_refill hlength) 0
  generalize refill groups ((r.placePieces matchers groups).flatMap r.moveSlots) = filled
    at hhomes ⊢
  have hkinds : kindsIn filled = kindsIn groups := by
    have hsnd := congrArg (List.map Prod.snd) hhomes
    rw [List.map_map, List.map_map] at hsnd
    rw [← map_kind_placesFrom 0, ← map_kind_placesFrom 0]
    exact hsnd
  obtain ⟨kind, hkind⟩ :=
    exists_settle (fuseFrom (joins (hits (r.placePieces matchers groups))) 0 filled)
  rw [← hkind, ← hkinds]
  refine forall₂_kindsIn_fuseFrom kind ?_
  rw [hhomes, List.forall_mem_map]
  exact fun p hp hjoins => admits_of_joins hpattern hp hjoins

/-- After a pass of a rule for single chunks all tokens are in the groups where they were. -/
theorem map_home_placesFrom_apply (hpattern : r.pattern = .tokens matchers)
    (hsingle : r.singleChunk = true) (groups : List Group) :
    (placesFrom 0 (r.apply groups)).map Place.home = (placesFrom 0 groups).map Place.home := by
  rw [apply_of_singleChunk hpattern hsingle]
  refine map_home_placesFrom_congr ?_ 0
  rw [List.forall₂_map_right_iff, List.forall₂_same]
  exact fun g _ => ⟨rfl, r.length_reorderInside matchers g⟩

/-- A place after the pass of a token rule that has not been moved, with the place before it. -/
theorem exists_place_before (hpattern : r.pattern = .tokens matchers) {n : Nat} {p : Place}
    (hp : (placesFrom 0 (r.apply groups))[n]? = some p) (hfree : p.slot.claimed = false) :
    (∀ s ∈ r.rewriteStarts groups, n < s ∨ s + r.order.length ≤ n) ∧
      ∃ q, (placesFrom 0 groups)[n]? = some q ∧ q.slot = p.slot ∧
        (r.Admits p.kind → r.Admits q.kind) ∧ (r.singleChunk = true → p.owner = q.owner) := by
  have hslot : (slotsIn (r.apply groups))[n]? = some p.slot := by
    rw [← slots_placesFrom 0, List.getElem?_map, hp]
    rfl
  obtain ⟨hout, hbefore⟩ := (r.rewritten_apply_of_tokens groups hpattern).of_unclaimed
    Slot.claimed (fun _ => rfl) hslot hfree
  rw [← slots_placesFrom 0, List.getElem?_map, Option.map_eq_some_iff] at hbefore
  obtain ⟨q, hq, hsame⟩ := hbefore
  refine ⟨hout, q, hq, hsame, fun hadmits => ?_, fun hsingle => ?_⟩
  · have hkinds := forall₂_kindsIn_apply hpattern groups
    rw [← map_kind_placesFrom 0, ← map_kind_placesFrom 0, List.forall₂_map_left_iff,
      List.forall₂_map_right_iff] at hkinds
    obtain ⟨hn, rfl⟩ := List.getElem?_eq_some_iff.mp hq
    obtain ⟨hn', rfl⟩ := List.getElem?_eq_some_iff.mp hp
    exact (List.forall₂_iff_get.mp hkinds).2 n hn hn' hadmits
  · have hhomes := congrArg (·[n]?) (map_home_placesFrom_apply hpattern hsingle groups)
    simp only [List.getElem?_map, hp, hq, Option.map_some, Option.some.injEq] at hhomes
    exact congrArg Prod.fst hhomes

/-- A match after a pass would be one of what the pass has left, and so one before the pass. -/
theorem matchesAt_of_matchesAt_apply {s : Nat} (h : r.MatchesAt (r.apply groups) s) :
    r.MatchesAt groups s ∧ ∀ t ∈ r.rewriteStarts groups, s < t ∨ t + r.order.length ≤ s := by
  cases hpattern : r.pattern with
  | chunks kinds =>
    rw [r.matchesAt_iff_of_chunks _ hpattern] at h ⊢
    have hrewritten := r.rewritten_apply_of_chunks groups hpattern
    have hbefore : ∀ i kind, kinds[i]? = some kind →
        (∀ t ∈ r.rewriteStarts groups, s + i < t ∨ t + r.order.length ≤ s + i) ∧
          ∃ g, groups[s + i]? = some g ∧ g.kind = kind ∧ g.claimed = false := by
      intro i kind hi
      obtain ⟨g, hg, hkind, hfree⟩ := h i kind hi
      obtain ⟨hout, hsame⟩ := hrewritten.of_unclaimed Group.claimed (fun _ => rfl) hg hfree
      exact ⟨hout, g, hsame, hkind, hfree⟩
    obtain ⟨kind, more, hkinds⟩ := List.exists_cons_of_ne_nil (ne_nil_of_chunks hpattern)
    exact ⟨fun i kind hi => (hbefore i kind hi).2, (hbefore 0 kind (by rw [hkinds]; rfl)).1⟩
  | tokens matchers =>
    rw [r.matchesAt_iff_of_tokens _ hpattern] at h ⊢
    obtain ⟨owner, h⟩ := h
    have hbefore : ∀ i m, matchers[i]? = some m →
        (∀ t ∈ r.rewriteStarts groups, s + i < t ∨ t + r.order.length ≤ s + i) ∧
          ∃ q, (placesFrom 0 groups)[s + i]? = some q ∧ (r.singleChunk = true → q.owner = owner) ∧
            q.slot.claimed = false ∧ m.accepts q.slot.token.tag = true ∧ r.Admits q.kind := by
      intro i m hi
      obtain ⟨p, hp, howner, hfree, htag, hadmits⟩ := h i m hi
      obtain ⟨hout, q, hq, hslot, hkind, hsame⟩ := exists_place_before hpattern hp hfree
      refine ⟨hout, q, hq, fun hsingle => ?_, hslot ▸ hfree, hslot ▸ htag, hkind hadmits⟩
      exact (hsame hsingle).symm.trans (howner hsingle)
    obtain ⟨m, more, hmatchers⟩ := List.exists_cons_of_ne_nil (ne_nil_of_tokens hpattern)
    exact ⟨⟨owner, fun i m hi => (hbefore i m hi).2⟩, (hbefore 0 m (by rw [hmatchers]; rfl)).1⟩

/-- After its pass a rule matches nowhere. -/
theorem not_matchesAt_apply (s : Nat) : ¬ r.MatchesAt (r.apply groups) s := by
  intro h
  obtain ⟨hmatch, hout⟩ := matchesAt_of_matchesAt_apply h
  rw [r.length_order] at hout
  have hsize := r.size_ne_zero
  by_cases hs : s ∈ r.rewriteStarts groups
  · have := hout s hs
    omega
  · obtain ⟨t, ht, hlt, hcover⟩ := (r.leftmostGreedy_rewriteStarts groups).covered s hmatch hs
    have := hout t ht
    omega

/-- A rule that matches nowhere changes nothing. -/
theorem apply_of_no_match (h : ∀ s, ¬ r.MatchesAt groups s) : r.apply groups = groups := by
  have hnone : ∀ s, s ∉ r.rewriteStarts groups := fun s hs =>
    h s ((r.leftmostGreedy_rewriteStarts groups).fits s hs)
  cases hpattern : r.pattern with
  | chunks kinds =>
    simp only [rewriteStarts, hpattern, groupPieces] at hnone
    rw [r.apply_of_chunks groups hpattern, funext r.moveGroups_eq, groupPieces,
      cutRow_of_no_start hnone, flatMap_movePiece_map_kept, List.map_id]
  | tokens matchers =>
    simp only [rewriteStarts, hpattern, placePieces] at hnone
    have hrefill : refill groups (slotsIn groups) = groups := by
      simpa using refill_slotsIn_map (f := id) (fun _ => rfl) (fun _ => rfl) groups
    have hjoins : ∀ index, joins [] index = false := fun _ => rfl
    simp only [apply, hpattern, placePieces]
    rw [cutRow_of_no_start hnone, hits_map_kept, funext r.moveSlots_eq, flatMap_movePiece_map_kept,
      slots_placesFrom, hrefill, fuseFrom_of_not_joined hjoins, List.map_map]
    exact List.map_id groups

/-- A second pass of a rule changes nothing. -/
theorem apply_apply (r : SyntacticRule) (groups : List Group) :
    r.apply (r.apply groups) = r.apply groups :=
  apply_of_no_match not_matchesAt_apply

end SyntacticRule

/-! ### Runs -/

namespace SyntacticTransfer

/-- A rule never fires on what one pass of it has left: wherever it stands among the rules, it
matches nowhere after its pass, and to apply it twice in a row gives the same tree as to apply it
once. -/
theorem transfer_rule_twice (r : SyntacticRule) (before after : List SyntacticRule)
    (tree : ShallowTree) :
    (∀ s, ¬ r.MatchesAt (run (before ++ [r]) (start tree)) s) ∧
      ∃ output, transfer ⟨before ++ [r] ++ after⟩ tree = .ok output ∧
        transfer ⟨before ++ [r, r] ++ after⟩ tree = .ok output := by
  have hlast : run (before ++ [r]) (start tree) = r.apply (run before (start tree)) :=
    run_append before [r] (start tree)
  refine ⟨hlast ▸ fun s => SyntacticRule.not_matchesAt_apply s, _, transfer_eq_ok _ tree, ?_⟩
  have hpasses : run [r, r] (run before (start tree)) = run [r] (run before (start tree)) :=
    r.apply_apply _
  rw [transfer_eq_ok]
  simp only [run_append, hpasses]

end SyntacticTransfer

end ShallowTransfer
