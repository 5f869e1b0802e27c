import Mathlib.Data.Set.Basic
import ShallowTransfer.Proofs.Reordering.Permutation

/-!
What one pass of a rule rewrites. Of all places where the rule matches the row as it was before the
pass, it takes those that a scan from the left would take (`LeftmostGreedy`): their spans do not
overlap, and every other match begins inside of the span of an earlier one. There is exactly one such
set of places, and the pass rearranges the spans that begin there, claims their elements and leaves
all others as they are (`apply_rewrites_leftmost`). It makes no difference that elements are claimed
while the pass goes on.
-/

namespace ShallowTransfer

variable {α β : Type}

/-! ### The places that a pass takes -/

/-- The matches that a scan from the left takes, by the places where they begin. -/
structure LeftmostGreedy (size : Nat) (Matches : Nat → Prop) (starts : Set Nat) : Prop where
  fits : ∀ s ∈ starts, Matches s
  apart : ∀ s ∈ starts, ∀ t ∈ starts, s < t → s + size ≤ t
  covered : ∀ s, Matches s → s ∉ starts → ∃ t ∈ starts, t < s ∧ s < t + size

/-- There is at most one choice of matches from the left. -/
theorem LeftmostGreedy.unique {size : Nat} {Matches : Nat → Prop} {starts starts' : Set Nat}
    (h : LeftmostGreedy size Matches starts) (h' : LeftmostGreedy size Matches starts') :
    starts = starts' := by
  ext s
  induction s using Nat.strongRecOn with
  | ind s ih =>
    constructor
    · intro hs
      by_contra hnot
      obtain ⟨t, ht, hlt, hcover⟩ := h'.covered s (h.fits s hs) hnot
      have := h.apart t ((ih t hlt).mpr ht) s hs hlt
      omega
    · intro hs
      by_contra hnot
      obtain ⟨t, ht, hlt, hcover⟩ := h.covered s (h'.fits s hs) hnot
      have := h'.apart t ((ih t hlt).mp ht) s hs hlt
      omega

theorem LeftmostGreedy.iff_eq {size : Nat} {Matches : Nat → Prop} {starts : Set Nat}
    (h : LeftmostGreedy size Matches starts) (S : Set Nat) :
    LeftmostGreedy size Matches S ↔ S = starts := by
  refine ⟨fun hS => hS.unique h, ?_⟩
  rintro rfl
  exact h

/-- A span of a row that begins at a place. -/
def SpanAt (row : List α) (s : Nat) (span : List α) : Prop :=
  ∃ before after, row = before ++ (span ++ after) ∧ before.length = s

theorem SpanAt.getElem? {row span : List α} {s i : Nat} (h : SpanAt row s span)
    (hi : i < span.length) : row[s + i]? = span[i]? := by
  obtain ⟨before, after, rfl, rfl⟩ := h
  rw [List.getElem?_append_right (by omega), Nat.add_sub_cancel_left, List.getElem?_append_left hi]

theorem SpanAt.sublist {row span : List α} {s : Nat} (h : SpanAt row s span) :
    span.Sublist row := by
  obtain ⟨before, after, rfl, -⟩ := h
  exact (List.sublist_append_left span after).trans (List.sublist_append_right before _)

theorem spanAt_take_drop {row : List α} {s n : Nat} (h : s ≤ row.length) :
    SpanAt row s ((row.drop s).take n) := by
  refine ⟨row.take s, (row.drop s).drop n, ?_, by rw [List.length_take, Nat.min_eq_left h]⟩
  rw [List.take_append_drop, List.take_append_drop]

/-- A span that fits some labels one by one begins at a place if and only if each element from there
on fits its label. -/
theorem exists_spanAt_forall₂_iff {R : α → β → Prop} {row : List α} {s : Nat} {ys : List β}
    (hne : ys ≠ []) :
    (∃ span, SpanAt row s span ∧ List.Forall₂ R span ys) ↔
      ∀ i y, ys[i]? = some y → ∃ x, row[s + i]? = some x ∧ R x y := by
  constructor
  · rintro ⟨span, hspan, hall⟩ i y hy
    obtain ⟨hi, rfl⟩ := List.getElem?_eq_some_iff.mp hy
    obtain ⟨hlength, hget⟩ := List.forall₂_iff_get.mp hall
    have hi' : i < span.length := by omega
    exact ⟨span[i], by rw [hspan.getElem? hi', List.getElem?_eq_getElem hi'], hget i hi' hi⟩
  · intro h
    have hlong : s + ys.length ≤ row.length := by
      have hlast : ys.length - 1 < ys.length := by have := List.length_pos_iff.mpr hne; omega
      obtain ⟨x, hx, -⟩ := h (ys.length - 1) _ (List.getElem?_eq_getElem hlast)
      have := (List.getElem?_eq_some_iff.mp hx).1
      omega
    refine ⟨(row.drop s).take ys.length, spanAt_take_drop (by omega), ?_⟩
    refine List.forall₂_iff_get.mpr ⟨?_, fun i hi hy => ?_⟩
    · rw [List.length_take, List.length_drop]
      omega
    · obtain ⟨x, hx, hR⟩ := h i _ (List.getElem?_eq_getElem hy)
      obtain ⟨hs, rfl⟩ := List.getElem?_eq_some_iff.mp hx
      simpa using hR

/-! ### The pieces of a row -/

/-- The places where the spans among some pieces begin. -/
def hitStarts (pieces : List (Piece α)) : Set Nat :=
  {s | ∃ before span after, pieces = before ++ .hit span :: after ∧
    (before.flatMap Piece.elements).length = s}

/-- Every place of a row is in one of its pieces. -/
theorem exists_piece_at : ∀ {pieces : List (Piece α)} {n : Nat},
    n < (pieces.flatMap Piece.elements).length →
      ∃ before piece after, pieces = before ++ piece :: after ∧
        (before.flatMap Piece.elements).length ≤ n ∧
        n < (before.flatMap Piece.elements).length + piece.elements.length
  | [], _, h => by simp at h
  | piece :: rest, n, h => by
    by_cases hn : n < piece.elements.length
    · exact ⟨[], piece, rest, rfl, by simp, by simpa using hn⟩
    · rw [List.flatMap_cons, List.length_append] at h
      have hrest : n - piece.elements.length < (rest.flatMap Piece.elements).length := by omega
      obtain ⟨before, found, after, rfl, hle, hlt⟩ := exists_piece_at hrest
      refine ⟨piece :: before, found, after, rfl, ?_, ?_⟩
      · rw [List.flatMap_cons, List.length_append]
        omega
      · rw [List.flatMap_cons, List.length_append]
        omega

variable {k : Nat} {fits : List α → Bool} {row : List α}

/-- The pieces behind others are those of the rest of the row. -/
theorem cutRow_of_append : ∀ {before after : List (Piece α)} {row : List α},
    cutRow k fits row = before ++ after → cutRow k fits (after.flatMap Piece.elements) = after
  | [], after, row, h => by
    rw [List.nil_append] at h
    rw [← h, flatMap_elements_cutRow]
  | piece :: before, after, [], h => by simp [cutRow] at h
  | piece :: before, after, x :: rest, h => by
    rw [cutRow] at h
    split at h
    · exact cutRow_of_append (List.cons.inj h).2
    · exact cutRow_of_append (List.cons.inj h).2

theorem hit_of_cutRow_eq {before after : List (Piece α)} {span : List α}
    (h : cutRow k fits row = before ++ .hit span :: after) :
    span.length = k + 1 ∧ fits span = true := by
  have hmem : Piece.hit span ∈ cutRow k fits row := by simp [h]
  exact hit_of_mem_cutRow hmem

/-- Where an element is kept, no span that fits begins. -/
theorem not_fits_of_kept {before after : List (Piece α)} {x : α} {span more : List α}
    (h : cutRow k fits row = before ++ .kept x :: after)
    (hspan : x :: after.flatMap Piece.elements = span ++ more) (hlength : span.length = k + 1) :
    ¬ fits span = true := by
  have hcut := cutRow_of_append h
  rw [List.flatMap_cons, Piece.elements, List.singleton_append, cutRow] at hcut
  split at hcut
  · cases hcut
  · next hnot =>
    intro hfits
    refine hnot ?_
    have htake : x :: (after.flatMap Piece.elements).take k = span := by
      rw [← List.take_succ_cons, hspan, ← hlength, List.take_left]
    have hlong : k + 1 ≤ (x :: after.flatMap Piece.elements).length := by
      rw [hspan, List.length_append]
      omega
    rw [htake, hfits, Bool.and_true, Nat.ble_eq]
    simpa using hlong

/-- Spans that are cut out of a row do not overlap. -/
theorem apart_hitStarts_cutRow {s t : Nat} (hs : s ∈ hitStarts (cutRow k fits row))
    (ht : t ∈ hitStarts (cutRow k fits row)) (hlt : s < t) : s + (k + 1) ≤ t := by
  obtain ⟨before, span, after, hpieces, rfl⟩ := hs
  obtain ⟨before', span', after', hpieces', rfl⟩ := ht
  rcases List.append_eq_append_iff.mp (hpieces.symm.trans hpieces') with
    ⟨between, rfl, hbetween⟩ | ⟨between, rfl, -⟩
  · cases between with
    | nil => simp at hlt
    | cons piece between =>
      obtain ⟨rfl, -⟩ := List.cons.inj hbetween
      have hlength := (hit_of_cutRow_eq hpieces).1
      simp only [List.flatMap_append, List.flatMap_cons, Piece.elements, List.length_append]
      omega
  · simp only [List.flatMap_append, List.length_append] at hlt
    omega

/-- A span that fits is cut out of a row, or begins inside of one that is. -/
theorem covered_of_fits {s : Nat} {span : List α} (hspan : SpanAt row s span)
    (hlength : span.length = k + 1) (hfits : fits span = true) :
    ∃ t ∈ hitStarts (cutRow k fits row), t ≤ s ∧ s < t + (k + 1) := by
  obtain ⟨front, back, hfront, rfl⟩ := hspan
  have hrow := flatMap_elements_cutRow k fits row
  have hin : front.length < ((cutRow k fits row).flatMap Piece.elements).length := by
    rw [hrow, hfront, List.length_append, List.length_append]
    omega
  obtain ⟨before, piece, after, hpieces, hle, hlt⟩ := exists_piece_at hin
  cases piece with
  | kept x =>
    rw [Piece.elements, List.length_singleton] at hlt
    rw [hpieces, hfront, List.flatMap_append, List.flatMap_cons, Piece.elements,
      List.singleton_append] at hrow
    have hrest := (List.append_inj hrow (by omega)).2
    exact absurd hfits (not_fits_of_kept hpieces hrest hlength)
  | hit span' =>
    rw [Piece.elements, (hit_of_cutRow_eq hpieces).1] at hlt
    exact ⟨_, ⟨before, span', after, hpieces, rfl⟩, hle, hlt⟩

/-- The spans that are cut out of a row are the matches from the left. -/
theorem leftmostGreedy_cutRow (k : Nat) (fits : List α → Bool) (row : List α) :
    LeftmostGreedy (k + 1) (fun s => ∃ span, SpanAt row s span ∧ span.length = k + 1 ∧
      fits span = true) (hitStarts (cutRow k fits row)) := by
  constructor
  · rintro s ⟨before, span, after, hpieces, rfl⟩
    have hrow := flatMap_elements_cutRow k fits row
    rw [hpieces, List.flatMap_append, List.flatMap_cons, Piece.elements] at hrow
    exact ⟨span, ⟨_, _, hrow.symm, rfl⟩, hit_of_cutRow_eq hpieces⟩
  · intro s hs t ht hlt
    exact apart_hitStarts_cutRow hs ht hlt
  · rintro s ⟨span, hspan, hlength, hfits⟩ hnot
    obtain ⟨t, ht, hle, hlt⟩ := covered_of_fits hspan hlength hfits
    refine ⟨t, ht, Nat.lt_of_le_of_ne hle ?_, hlt⟩
    rintro rfl
    exact hnot ht

/-! ### The row after a pass -/

/-- A row in which the spans at some places are rearranged and claimed, each element with index `i`
in the span being the one at `order[i]` before, and nothing else is changed. -/
structure Rewritten (order : List Nat) (claim : β → β) (starts : Set Nat) (row row' : List β) :
    Prop where
  length_eq : row'.length = row.length
  moved : ∀ s ∈ starts, ∀ i j, order[i]? = some j →
    ∃ x, row[s + j]? = some x ∧ row'[s + i]? = some (claim x)
  kept : ∀ n, (∀ s ∈ starts, n < s ∨ s + order.length ≤ n) → row'[n]? = row[n]?

variable {order : List Nat}

/-- An element of a rearranged span is the one that the order tells. -/
theorem getElem?_rearrange {span : List α} (horder : ∀ j ∈ order, j < span.length) {i j : Nat}
    (h : order[i]? = some j) : ∃ x, span[j]? = some x ∧ (rearrange order span)[i]? = some x := by
  obtain ⟨hi, rfl⟩ := List.getElem?_eq_some_iff.mp h
  obtain ⟨hlength, hget⟩ := List.forall₂_iff_get.mp (forall₂_rearrange horder)
  refine ⟨(rearrange order span)[i], by simpa using hget i (by omega) hi, ?_⟩
  exact List.getElem?_eq_getElem (by omega)

theorem length_rearrange {span : List α} (horder : ∀ j ∈ order, j < span.length) :
    (rearrange order span).length = order.length :=
  (forall₂_rearrange horder).length_eq

/-- An order that is about all elements of each span among some pieces. -/
def Suits (order : List Nat) (pieces : List (Piece α)) : Prop :=
  ∀ span, Piece.hit span ∈ pieces → span.length = order.length ∧ ∀ j ∈ order, j < span.length

theorem suits_cutRow (fits : List α → Bool) (row : List α) (hlength : order.length = k + 1)
    (horder : ∀ j ∈ order, j < k + 1) : Suits order (cutRow k fits row) := by
  intro span hspan
  have hspan := (hit_of_mem_cutRow hspan).1
  refine ⟨by omega, fun j hj => ?_⟩
  have := horder j hj
  omega

section Pieces

variable {pieces before after : List (Piece α)} {piece : Piece α} {keep claim : α → β}

/-- Moving pieces keeps the number of their elements. -/
theorem Suits.length_flatMap : ∀ {pieces : List (Piece α)}, Suits order pieces →
    (pieces.flatMap (movePiece order keep claim)).length = (pieces.flatMap Piece.elements).length
  | [], _ => rfl
  | piece :: rest, h => by
    have hrest : (rest.flatMap (movePiece order keep claim)).length =
        (rest.flatMap Piece.elements).length :=
      Suits.length_flatMap fun span hspan => h span (List.mem_cons_of_mem _ hspan)
    rw [List.flatMap_cons, List.flatMap_cons, List.length_append, List.length_append, hrest]
    cases piece with
    | kept x => rfl
    | hit span =>
      obtain ⟨hlength, horder⟩ := h span List.mem_cons_self
      rw [movePiece, Piece.elements, List.length_map, length_rearrange horder, hlength]

theorem spanAt_elements (h : pieces = before ++ piece :: after) (keep : α → β) :
    SpanAt ((pieces.flatMap Piece.elements).map keep) (before.flatMap Piece.elements).length
      (piece.elements.map keep) := by
  rw [h, List.flatMap_append, List.flatMap_cons, List.map_append, List.map_append]
  exact ⟨_, _, rfl, List.length_map _⟩

/-- A moved piece begins where the piece began. -/
theorem Suits.spanAt_movePiece (hsuits : Suits order pieces) (h : pieces = before ++ piece :: after) :
    SpanAt (pieces.flatMap (movePiece order keep claim)) (before.flatMap Piece.elements).length
      (movePiece order keep claim piece) := by
  rw [h] at hsuits ⊢
  rw [List.flatMap_append, List.flatMap_cons]
  exact ⟨_, _, rfl, Suits.length_flatMap fun span hspan => hsuits span (by simp [hspan])⟩

/-- Moving pieces rewrites the spans among them. -/
theorem Suits.rewritten (hsuits : Suits order pieces) (keep : α → β) (claim : β → β) :
    Rewritten order claim (hitStarts pieces) ((pieces.flatMap Piece.elements).map keep)
      (pieces.flatMap (movePiece order keep fun x => claim (keep x))) := by
  have hlength : (pieces.flatMap (movePiece order keep fun x => claim (keep x))).length =
      (pieces.flatMap Piece.elements).length := hsuits.length_flatMap
  constructor
  · rw [hlength, List.length_map]
  · rintro s ⟨before, span, after, hpieces, rfl⟩ i j hij
    obtain ⟨-, hlt⟩ := hsuits span (by simp [hpieces])
    obtain ⟨x, hx, hmoved⟩ := getElem?_rearrange hlt hij
    have hi : i < order.length := (List.getElem?_eq_some_iff.mp hij).1
    have hj : j < span.length := hlt j (List.mem_of_getElem? hij)
    refine ⟨keep x, ?_, ?_⟩
    · rw [(spanAt_elements hpieces keep).getElem? (by simpa [Piece.elements] using hj),
        Piece.elements, List.getElem?_map, hx, Option.map_some]
    · rw [(hsuits.spanAt_movePiece hpieces).getElem?
        (by simpa [movePiece, length_rearrange hlt] using hi), movePiece, List.getElem?_map, hmoved,
        Option.map_some]
  · intro n hout
    by_cases hn : n < (pieces.flatMap Piece.elements).length
    · obtain ⟨before, piece, after, hpieces, hle, hlt⟩ := exists_piece_at hn
      cases piece with
      | kept x =>
        obtain rfl : n = (before.flatMap Piece.elements).length + 0 := by
          rw [Piece.elements, List.length_singleton] at hlt
          omega
        rw [(spanAt_elements hpieces keep).getElem? (by simp [Piece.elements]),
          (hsuits.spanAt_movePiece hpieces).getElem? (by simp [movePiece])]
        rfl
      | hit span =>
        -- the place is inside of the span, which the hypothesis rules out
        have hspan := (hsuits span (by simp [hpieces])).1
        have := hout _ ⟨before, span, after, hpieces, rfl⟩
        rw [Piece.elements] at hlt
        omega
    · rw [List.getElem?_eq_none (by omega), List.getElem?_eq_none (by simpa using hn)]

end Pieces

/-! ### Matches of a rule -/

namespace SyntacticRule

variable (r : SyntacticRule) (groups : List Group)

/-- The groups of a span are what the pattern of a chunk rule says, and no rule has moved them. -/
def MatchesGroups (kinds : List ChunkKind) (span : List Group) : Prop :=
  List.Forall₂ (fun g kind => g.kind = kind ∧ g.claimed = false) span kinds

/-- The places of a span are what the pattern of a token rule says, no rule has moved their tokens,
and the groups that they are in are such that the rule may match there. -/
def MatchesPlaces (r : SyntacticRule) (matchers : List TagMatcher) (span : List Place) : Prop :=
  List.Forall₂ (fun p m => p.slot.claimed = false ∧ m.accepts p.slot.token.tag = true ∧
    (r.within = [] ∨ p.kind ∈ r.within)) span matchers ∧
  (r.singleChunk = true → ∃ owner, ∀ p ∈ span, p.owner = owner)

/-- Whether the rule matches the elements from a place on, before a pass. -/
def MatchesAt (r : SyntacticRule) (groups : List Group) (s : Nat) : Prop :=
  match r.pattern with
  | .chunks kinds => ∃ span, SpanAt groups s span ∧ MatchesGroups kinds span
  | .tokens matchers => ∃ span, SpanAt (placesFrom 0 groups) s span ∧ r.MatchesPlaces matchers span

/-- A row of elements fits a row of labels if each one fits its own. -/
theorem forall₂_iff_all_zip {γ δ : Type} {R : γ → δ → Prop} {f : γ × δ → Bool}
    (hf : ∀ x y, f (x, y) = true ↔ R x y) (xs : List γ) (ys : List δ) :
    List.Forall₂ R xs ys ↔ xs.length = ys.length ∧ (xs.zip ys).all f = true := by
  rw [List.forall₂_iff_zip, List.all_eq_true]
  simp only [Prod.forall, hf]

theorem matchesGroups_iff {kinds : List ChunkKind} {span : List Group} :
    MatchesGroups kinds span ↔ span.length = kinds.length ∧ fitsGroups kinds span = true :=
  forall₂_iff_all_zip (fun g kind => by simp) span kinds

/-- The places of a span are in one group if the first and the last of them are. -/
theorem all_spanOwners_iff {span : List Place} (hne : span ≠ [])
    (hsorted : span.Pairwise fun p q => p.owner ≤ q.owner) :
    ((spanOwners span).all fun e => e.1 = e.2) = true ↔ ∃ owner, ∀ p ∈ span, p.owner = owner := by
  obtain ⟨first, hfirst, last, hlast, howners, hbetween⟩ := exists_spanOwners hne hsorted
  rw [howners, Option.all_some, decide_eq_true_eq]
  constructor
  · intro heq
    refine ⟨first.owner, fun p hp => ?_⟩
    have := hbetween p hp
    omega
  · rintro ⟨owner, hall⟩
    rw [hall first hfirst, hall last hlast]

theorem matchesPlaces_iff {matchers : List TagMatcher} {span : List Place}
    (hne : matchers ≠ []) (hsorted : span.Pairwise fun p q => p.owner ≤ q.owner) :
    r.MatchesPlaces matchers span ↔
      span.length = matchers.length ∧ r.fitsPlaces matchers span = true := by
  have hplaces := forall₂_iff_all_zip
    (R := fun p m => p.slot.claimed = false ∧ m.accepts p.slot.token.tag = true ∧
      (r.within = [] ∨ p.kind ∈ r.within))
    (f := fun e => !e.1.slot.claimed && e.2.accepts e.1.slot.token.tag && r.allows e.1.kind)
    (fun p m => by simp [allows, and_assoc]) span matchers
  rw [MatchesPlaces, hplaces, fitsPlaces, Bool.and_eq_true, and_assoc, and_congr_right_iff,
    and_congr_right_iff]
  intro hlength _
  have hspan : span ≠ [] := by
    rintro rfl
    exact hne (List.length_eq_zero_iff.mp hlength.symm)
  rw [← all_spanOwners_iff hspan hsorted]
  cases r.singleChunk <;> simp

/-- A chunk rule matches at a place if each group from there on has the kind that the pattern says,
and no rule has moved it. -/
theorem matchesAt_iff_of_chunks {kinds : List ChunkKind} (h : r.pattern = .chunks kinds) {s : Nat} :
    r.MatchesAt groups s ↔ ∀ i kind, kinds[i]? = some kind →
      ∃ g, groups[s + i]? = some g ∧ g.kind = kind ∧ g.claimed = false := by
  simp only [MatchesAt, h, MatchesGroups, exists_spanAt_forall₂_iff (ne_nil_of_chunks h)]

/-- A token rule matches at a place if each token from there on has a tag that the pattern says and
is in a group where the rule may match, no rule has moved it, and all are in one group if they have
to be. -/
theorem matchesAt_iff_of_tokens {matchers : List TagMatcher} (h : r.pattern = .tokens matchers)
    {s : Nat} :
    r.MatchesAt groups s ↔ ∃ owner, ∀ i m, matchers[i]? = some m →
      ∃ p, (placesFrom 0 groups)[s + i]? = some p ∧ (r.singleChunk = true → p.owner = owner) ∧
        p.slot.claimed = false ∧ m.accepts p.slot.token.tag = true ∧
          (r.within = [] ∨ p.kind ∈ r.within) := by
  simp only [MatchesAt, h, MatchesPlaces, ← exists_spanAt_forall₂_iff (ne_nil_of_tokens h),
    List.forall₂_and_left]
  constructor
  · rintro ⟨span, hspan, hall, howner⟩
    cases hsingle : r.singleChunk with
    | false => exact ⟨0, span, hspan, nofun, hall⟩
    | true =>
      obtain ⟨owner, howner⟩ := howner hsingle
      exact ⟨owner, span, hspan, fun p hp _ => howner p hp, hall⟩
  · rintro ⟨owner, span, hspan, howner, hall⟩
    exact ⟨span, hspan, hall, fun hsingle => ⟨owner, fun p hp => howner p hp hsingle⟩⟩

theorem length_order : r.order.length = r.pattern.size := by
  rw [r.order_perm.length_eq, List.length_range]

/-- The matches from the left begin where a pass of a chunk rule cuts out its spans. -/
theorem leftmostGreedy_groupPieces {kinds : List ChunkKind} (h : r.pattern = .chunks kinds) :
    LeftmostGreedy r.pattern.size (r.MatchesAt groups) (hitStarts (groupPieces kinds groups)) := by
  have hsize : r.pattern.size = kinds.length - 1 + 1 := by
    have := r.size_ne_zero
    have := length_of_chunks h
    omega
  have hmatches : r.MatchesAt groups = fun s => ∃ span, SpanAt groups s span ∧
      span.length = r.pattern.size ∧ fitsGroups kinds span = true := by
    funext s
    simp only [MatchesAt, h, matchesGroups_iff, Pattern.size]
  rw [hmatches, hsize]
  exact leftmostGreedy_cutRow _ _ _

/-- The matches from the left begin where a pass of a token rule cuts out its spans. -/
theorem leftmostGreedy_placePieces {matchers : List TagMatcher} (h : r.pattern = .tokens matchers) :
    LeftmostGreedy r.pattern.size (r.MatchesAt groups)
      (hitStarts (r.placePieces matchers groups)) := by
  have hsize : r.pattern.size = matchers.length - 1 + 1 := by
    have := r.size_ne_zero
    have := length_of_tokens h
    omega
  have hmatches : r.MatchesAt groups = fun s => ∃ span, SpanAt (placesFrom 0 groups) s span ∧
      span.length = r.pattern.size ∧ r.fitsPlaces matchers span = true := by
    funext s
    simp only [MatchesAt, h, Pattern.size]
    refine propext (exists_congr fun span => and_congr_right fun hspan => ?_)
    exact r.matchesPlaces_iff (ne_nil_of_tokens h) ((pairwise_owner 0 groups).sublist hspan.sublist)
  rw [hmatches, hsize]
  exact leftmostGreedy_cutRow _ _ _

theorem suits_of_size {fits : List α → Bool} {row : List α} {size : Nat}
    (h : size = r.pattern.size) : Suits r.order (cutRow (size - 1) fits row) := by
  have hsize : r.pattern.size = size - 1 + 1 := by
    have := r.size_ne_zero
    omega
  refine suits_cutRow fits row (r.length_order.trans hsize) fun j hj => ?_
  have := lt_size_of_mem_order hj
  omega

/-- The places where a pass of the rule begins to rewrite. -/
def rewriteStarts (r : SyntacticRule) (groups : List Group) : Set Nat :=
  match r.pattern with
  | .chunks kinds => hitStarts (groupPieces kinds groups)
  | .tokens matchers => hitStarts (r.placePieces matchers groups)

/-- A pass rewrites the matches from the left. -/
theorem leftmostGreedy_rewriteStarts :
    LeftmostGreedy r.pattern.size (r.MatchesAt groups) (r.rewriteStarts groups) := by
  unfold rewriteStarts
  split
  · next hpattern => exact r.leftmostGreedy_groupPieces groups hpattern
  · next hpattern => exact r.leftmostGreedy_placePieces groups hpattern

/-- A pass of a chunk rule rewrites the row of groups. -/
theorem rewritten_apply_of_chunks {kinds : List ChunkKind} (h : r.pattern = .chunks kinds) :
    Rewritten r.order Group.claim (r.rewriteStarts groups) groups (r.apply groups) := by
  have hsuits : Suits r.order (groupPieces kinds groups) := r.suits_of_size (length_of_chunks h)
  have hrewritten := hsuits.rewritten id Group.claim
  rw [groupPieces, flatMap_elements_cutRow, List.map_id] at hrewritten
  simp only [rewriteStarts, h]
  rw [r.apply_of_chunks groups h, funext r.moveGroups_eq]
  exact hrewritten

/-- A pass of a token rule rewrites the row of slots. -/
theorem rewritten_apply_of_tokens {matchers : List TagMatcher} (h : r.pattern = .tokens matchers) :
    Rewritten r.order Slot.claim (r.rewriteStarts groups) (slotsIn groups)
      (slotsIn (r.apply groups)) := by
  have hsuits : Suits r.order (r.placePieces matchers groups) :=
    r.suits_of_size (length_of_tokens h)
  have hrewritten := hsuits.rewritten Place.slot Slot.claim
  rw [placePieces, flatMap_elements_cutRow, slots_placesFrom] at hrewritten
  simp only [rewriteStarts, h]
  rw [r.slotsIn_apply_of_tokens groups h, funext r.moveSlots_eq]
  exact hrewritten

end SyntacticRule

end ShallowTransfer
