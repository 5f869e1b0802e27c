import Mathlib.Data.List.Forall2
import Mathlib.Data.List.Perm.Subperm
import ShallowTransfer.Reordering.Transfer

/-!
The order of a rule: the check lets through the rearrangements of the indices of the pattern and
nothing else (`checkOrder_eq_ok_iff`), and rearranging a span as long as the pattern by such an
order loses nothing (`rearrange_perm`). What a pass hands to a rule always has that length
(`hit_of_mem_cutRow`).
-/

namespace ShallowTransfer

/-! ### The check of an order -/

theorem firstMisplaced_eq_none {size : Nat} :
    ∀ {seen order : List Nat}, firstMisplaced size seen order = none →
      (∀ i ∈ order, i < size ∧ i ∉ seen) ∧ order.Nodup
  | _, [], _ => by simp
  | seen, i :: rest, h => by
    rw [firstMisplaced] at h
    split at h
    · cases h
    · next hi =>
      obtain ⟨hrest, hnodup⟩ := firstMisplaced_eq_none h
      simp only [Bool.or_eq_true, decide_eq_true_eq, List.contains_iff_mem, not_or] at hi
      refine ⟨fun j hj => ?_, List.nodup_cons.mpr ⟨fun hmem => ?_, hnodup⟩⟩
      · rcases List.mem_cons.mp hj with rfl | hj
        · exact ⟨by omega, hi.2⟩
        · obtain ⟨hlt, hseen⟩ := hrest j hj
          exact ⟨hlt, fun hm => hseen (List.mem_cons_of_mem _ hm)⟩
      · exact (hrest i hmem).2 List.mem_cons_self

theorem firstMisplaced_of_nodup {size : Nat} :
    ∀ {seen order : List Nat}, (∀ i ∈ order, i < size ∧ i ∉ seen) → order.Nodup →
      firstMisplaced size seen order = none
  | _, [], _, _ => by rw [firstMisplaced]
  | seen, i :: rest, h, hnodup => by
    obtain ⟨hnot, hnodup⟩ := List.nodup_cons.mp hnodup
    obtain ⟨hlt, hseen⟩ := h i List.mem_cons_self
    have hstep : ¬ (decide (size ≤ i) || seen.contains i) = true := by
      simp only [Bool.or_eq_true, decide_eq_true_eq, List.contains_iff_mem, not_or]
      exact ⟨by omega, hseen⟩
    rw [firstMisplaced, if_neg hstep]
    refine firstMisplaced_of_nodup (fun j hj => ?_) hnodup
    obtain ⟨hjlt, hjseen⟩ := h j (List.mem_cons_of_mem _ hj)
    refine ⟨hjlt, fun hm => ?_⟩
    rcases List.mem_cons.mp hm with rfl | hm
    · exact hnot hj
    · exact hjseen hm

/-- Of all lists of indices, exactly the rearrangements of those of a nonempty pattern pass. -/
theorem checkOrder_eq_ok_iff {name : String} {pattern : Pattern} {order : List Nat} :
    checkOrder name pattern order = .ok () ↔
      pattern.size ≠ 0 ∧ order.Perm (List.range pattern.size) := by
  unfold checkOrder
  constructor
  · intro h
    split at h
    · cases h
    · next hsize =>
      split at h
      · cases h
      · next hlen =>
        split at h
        · cases h
        · next hnone =>
          obtain ⟨hmem, hnodup⟩ := firstMisplaced_eq_none hnone
          have hsub : order ⊆ List.range pattern.size := fun i hi => by
            have := (hmem i hi).1
            exact List.mem_range.mpr (by omega)
          refine ⟨hsize, (hnodup.subperm hsub).perm_of_length_le ?_⟩
          rw [List.length_range]
          omega
  · rintro ⟨hsize, hperm⟩
    have hlen : order.length = pattern.size := by
      rw [hperm.length_eq, List.length_range]
    have hnone : firstMisplaced order.length [] order = none := by
      refine firstMisplaced_of_nodup (fun i hi => ?_) (hperm.nodup_iff.mpr List.nodup_range)
      have := List.mem_range.mp (hperm.mem_iff.mp hi)
      exact ⟨by omega, List.not_mem_nil⟩
    rw [if_neg hsize, if_neg (not_not.mpr hlen), hnone]

namespace SyntacticRule

theorem size_ne_zero (r : SyntacticRule) : r.pattern.size ≠ 0 :=
  (checkOrder_eq_ok_iff.mp r.sound).1

theorem order_perm (r : SyntacticRule) : r.order.Perm (List.range r.pattern.size) :=
  (checkOrder_eq_ok_iff.mp r.sound).2

theorem length_of_chunks {r : SyntacticRule} {kinds : List ChunkKind}
    (h : r.pattern = .chunks kinds) : kinds.length = r.pattern.size := by
  rw [h, Pattern.size]

theorem length_of_tokens {r : SyntacticRule} {matchers : List TagMatcher}
    (h : r.pattern = .tokens matchers) : matchers.length = r.pattern.size := by
  rw [h, Pattern.size]

theorem ne_nil_of_chunks {r : SyntacticRule} {kinds : List ChunkKind}
    (h : r.pattern = .chunks kinds) : kinds ≠ [] :=
  List.ne_nil_of_length_pos (Nat.pos_of_ne_zero (length_of_chunks h ▸ r.size_ne_zero))

theorem ne_nil_of_tokens {r : SyntacticRule} {matchers : List TagMatcher}
    (h : r.pattern = .tokens matchers) : matchers ≠ [] :=
  List.ne_nil_of_length_pos (Nat.pos_of_ne_zero (length_of_tokens h ▸ r.size_ne_zero))

theorem lt_size_of_mem_order {r : SyntacticRule} {i : Nat} (h : i ∈ r.order) :
    i < r.pattern.size :=
  List.mem_range.mp (r.order_perm.mem_iff.mp h)

end SyntacticRule

/-! ### Rearranging a span -/

theorem rearrange_range {α : Type} (span : List α) :
    rearrange (List.range span.length) span = span := by
  induction span with
  | nil => rfl
  | cons x rest ih =>
    unfold rearrange at ih ⊢
    rw [List.length_cons, List.range_succ_eq_map, List.filterMap_cons, List.filterMap_map]
    simpa [Function.comp_def] using ih

theorem map_rearrange {α β : Type} (f : α → β) (order : List Nat) (span : List α) :
    (rearrange order span).map f = rearrange order (span.map f) := by
  unfold rearrange
  rw [List.map_filterMap]
  simp only [List.getElem?_map]

/-- A rearrangement of the indices of a span rearranges the span. -/
theorem rearrange_perm {α : Type} {order : List Nat} {span : List α}
    (h : order.Perm (List.range span.length)) : (rearrange order span).Perm span := by
  have hspan : (List.range span.length).filterMap (fun i => span[i]?) = span :=
    rearrange_range span
  have hrange := h.filterMap fun i => span[i]?
  rwa [hspan] at hrange

theorem forall₂_rearrange {α : Type} {row : List α} :
    ∀ {order : List Nat}, (∀ i ∈ order, i < row.length) →
      List.Forall₂ (fun x i => row[i]? = some x) (rearrange order row) order
  | [], _ => List.Forall₂.nil
  | i :: rest, h => by
    obtain ⟨x, hget⟩ : ∃ x, row[i]? = some x :=
      ⟨_, List.getElem?_eq_getElem (h i List.mem_cons_self)⟩
    unfold rearrange
    rw [List.filterMap_cons, hget]
    exact List.Forall₂.cons hget
      (forall₂_rearrange fun j hj => h j (List.mem_cons_of_mem _ hj))

/-- Elements that are found at the places of an order are the row rearranged by it. -/
theorem eq_rearrange_of_forall₂ {α : Type} {row xs : List α} {order : List Nat}
    (h : List.Forall₂ (fun x i => row[i]? = some x) xs order) : xs = rearrange order row := by
  induction h with
  | nil => rfl
  | cons hget _ ih =>
    unfold rearrange at ih ⊢
    rw [List.filterMap_cons, hget, ← ih]

theorem rearrange_range_of_lt {n : Nat} : ∀ {order : List Nat}, (∀ i ∈ order, i < n) →
    rearrange order (List.range n) = order
  | [], _ => rfl
  | i :: rest, h => by
    have hrest := rearrange_range_of_lt fun j hj => h j (List.mem_cons_of_mem _ hj)
    unfold rearrange at hrest ⊢
    rw [List.filterMap_cons, List.getElem?_range (h i List.mem_cons_self)]
    simp only [hrest]

/-- Elements that are numbered from zero show the order of the rule that rearranges them. -/
theorem SyntacticRule.map_rearrange_order {α : Type} (r : SyntacticRule) {f : α → Nat} {xs : List α}
    (h : xs.map f = List.range r.pattern.size) : (rearrange r.order xs).map f = r.order := by
  rw [map_rearrange, h]
  exact rearrange_range_of_lt fun _ hi => lt_size_of_mem_order hi

/-! ### The spans of a row -/

/-- A span that is cut out of a row has one element for each of the pattern, and fits. -/
theorem hit_of_mem_cutRow {α : Type} {k : Nat} {fits : List α → Bool} {span : List α} :
    ∀ {xs : List α}, Piece.hit span ∈ cutRow k fits xs → span.length = k + 1 ∧ fits span = true
  | [], h => by
    rw [cutRow] at h
    cases h
  | x :: rest, h => by
    rw [cutRow] at h
    split at h
    · next hfits =>
      simp only [Bool.and_eq_true, Nat.ble_eq] at hfits
      rcases List.mem_cons.mp h with heq | h
      · cases heq
        refine ⟨?_, hfits.2⟩
        rw [List.length_cons, List.length_take, Nat.min_eq_left hfits.1]
      · exact hit_of_mem_cutRow h
    · rcases List.mem_cons.mp h with heq | h
      · cases heq
      · exact hit_of_mem_cutRow h
termination_by xs => xs.length
decreasing_by
  all_goals simp only [List.length_cons, List.length_drop]
  all_goals omega

theorem mem_hits {α : Type} {pieces : List (Piece α)} {span : List α} :
    span ∈ hits pieces ↔ Piece.hit span ∈ pieces := by
  rw [hits, List.mem_filterMap]
  constructor
  · rintro ⟨piece, hmem, heq⟩
    cases piece with
    | kept x => cases heq
    | hit other =>
      cases heq
      exact hmem
  · exact fun h => ⟨_, h, rfl⟩

/-- A row that fits as a whole is one span. -/
theorem cutRow_of_fits {α : Type} {k : Nat} {fits : List α → Bool} :
    ∀ {xs : List α}, xs.length = k + 1 → fits xs = true → cutRow k fits xs = [.hit xs]
  | x :: rest, hlen, hfits => by
    rw [List.length_cons, Nat.add_right_cancel_iff] at hlen
    have htake : rest.take k = rest := by rw [← hlen, List.take_length]
    have hdrop : rest.drop k = [] := by rw [← hlen, List.drop_length]
    have hble : Nat.ble k rest.length = true := Nat.ble_eq.mpr (Nat.le_of_eq hlen.symm)
    rw [cutRow, htake, hble, hfits, hdrop, cutRow]
    rfl

end ShallowTransfer
