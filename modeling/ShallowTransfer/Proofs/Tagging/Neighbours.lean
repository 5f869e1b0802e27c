import ShallowTransfer.Proofs.Tagging.Replay

/-!
What a rule sees of a sentence, said by the distance from the place where it is tried. A condition
speaks of the words up to two places away (`Context.HoldsAt`), and a rule changes a word exactly if
it fires at its place, on the sentence as it was before the rule (`Tagging.getElem?_row_step`).
-/

namespace ShallowTransfer

/-! ### Neighbours -/

section Neighbours

variable {α β : Type}

/-- The element of a list at some distance from a place: to the right of it, or to the left where
the distance is negative. Outside of the list there is none. -/
def neighbour? (xs : List α) (i : Nat) (d : Int) : Option α :=
  if 0 ≤ i + d then xs[(i + d).toNat]? else none

theorem neighbour?_zero (xs : List α) (i : Nat) : neighbour? xs i 0 = xs[i]? := by
  rw [neighbour?, Int.add_zero, if_pos (Int.natCast_nonneg i), Int.toNat_natCast]

theorem neighbour?_map (f : α → β) (xs : List α) (i : Nat) (d : Int) :
    neighbour? (xs.map f) i d = (neighbour? xs i d).map f := by
  rw [neighbour?, neighbour?]
  split
  · exact List.getElem?_map
  · rfl

theorem nonneg_of_neighbour? {xs : List α} {i : Nat} {d : Int} {x : α}
    (h : neighbour? xs i d = some x) : 0 ≤ i + d := by
  rw [neighbour?] at h
  split at h
  · assumption
  · cases h

/-- The neighbours of a neighbour. -/
theorem neighbour?_neighbour {i : Nat} {d : Int} (h : 0 ≤ i + d) (xs : List α) (e : Int) :
    neighbour? xs (i + d).toNat e = neighbour? xs i (d + e) := by
  have hplace : ((i + d).toNat : Int) + e = i + (d + e) := by omega
  rw [neighbour?, neighbour?, hplace]

theorem getElem?_viewsAfter (xs : List α) : ∀ (left : List α) (i : Nat),
    (viewsAfter left xs)[i]? =
      xs[i]?.map fun x => ⟨(xs.take i).reverse ++ left, x, xs.drop (i + 1)⟩ := by
  induction xs with
  | nil => exact fun _ _ => rfl
  | cons x rest ih =>
    intro left i
    cases i with
    | zero => rfl
    | succ i =>
      rw [viewsAfter, List.getElem?_cons_succ, ih, List.getElem?_cons_succ, List.take_succ_cons,
        List.reverse_cons, List.append_assoc]
      rfl

/-- The place of a list with an index holds what lies around this index. -/
theorem getElem?_views (xs : List α) (i : Nat) :
    (views xs)[i]? = xs[i]?.map fun x => ⟨(xs.take i).reverse, x, xs.drop (i + 1)⟩ := by
  rw [views, getElem?_viewsAfter]
  simp only [List.append_nil]

section View

variable {xs : List α} {i : Nat} {v : View α}

theorem neighbour?_left (h : (views xs)[i]? = some v) (n : Nat) :
    neighbour? xs i (-(n + 1 : Nat)) = v.left[n]? := by
  rw [getElem?_views] at h
  obtain ⟨x, hx, rfl⟩ := Option.map_eq_some_iff.mp h
  have hlt : i < xs.length := (List.getElem?_eq_some_iff.mp hx).1
  have hlen : (xs.take i).length = i := List.length_take_of_le (Nat.le_of_lt hlt)
  rw [neighbour?]
  by_cases hn : n < i
  · have hplace : ((i : Int) + -(n + 1 : Nat)).toNat = i - 1 - n := by omega
    rw [if_pos (by omega), hplace, List.getElem?_reverse (by omega), hlen,
      List.getElem?_take_of_lt (by omega)]
  · rw [if_neg (by omega), List.getElem?_eq_none]
    rw [List.length_reverse, hlen]
    omega

theorem neighbour?_here (h : (views xs)[i]? = some v) : neighbour? xs i 0 = some v.here := by
  rw [getElem?_views] at h
  obtain ⟨x, hx, rfl⟩ := Option.map_eq_some_iff.mp h
  rw [neighbour?_zero, hx]

theorem neighbour?_right (h : (views xs)[i]? = some v) (n : Nat) :
    neighbour? xs i (n + 1 : Nat) = v.right[n]? := by
  rw [getElem?_views] at h
  obtain ⟨x, -, rfl⟩ := Option.map_eq_some_iff.mp h
  have hplace : ((i : Int) + (n + 1 : Nat)).toNat = i + 1 + n := by omega
  rw [neighbour?, if_pos (by omega), hplace, List.getElem?_drop]

end View

end Neighbours

/-! ### Where a rule fires -/

/-- The tag of the word at some distance from a place. -/
def tagNear (seen : List Seen) (i : Nat) (d : Int) : Option TagId :=
  (neighbour? seen i d).map Seen.tag

/-- The word at some distance from a place. -/
def wordNear (seen : List Seen) (i : Nat) (d : Int) : Option String :=
  (neighbour? seen i d).map Seen.word

/-- What a condition says of the words of a sentence around a place. -/
def Context.HoldsAt (seen : List Seen) (i : Nat) : Context → Prop
  | prevTag tag => tagNear seen i (-1) = some tag
  | nextTag tag => tagNear seen i 1 = some tag
  | prevTwoTag tag => tagNear seen i (-2) = some tag
  | nextTwoTag tag => tagNear seen i 2 = some tag
  | prevOrPrevTwoTag tag => tagNear seen i (-1) = some tag ∨ tagNear seen i (-2) = some tag
  | surroundTags prev next => tagNear seen i (-1) = some prev ∧ tagNear seen i 1 = some next
  | prevWord word => wordNear seen i (-1) = some word
  | nextWord word => wordNear seen i 1 = some word
  | currentWord word => wordNear seen i 0 = some word

instance Context.decidableHoldsAt (seen : List Seen) (i : Nat) :
    DecidablePred (Context.HoldsAt seen i)
  | prevTag _ | nextTag _ | prevTwoTag _ | nextTwoTag _ => inferInstanceAs (Decidable (_ = _))
  | prevOrPrevTwoTag _ => inferInstanceAs (Decidable (_ ∨ _))
  | surroundTags _ _ => inferInstanceAs (Decidable (_ ∧ _))
  | prevWord _ | nextWord _ | currentWord _ => inferInstanceAs (Decidable (_ = _))

/-- Whether a rule fires at a place of a sentence: its source tag stands there, and its condition
holds of the words around. -/
def TransformRule.FiresAt (r : TransformRule) (seen : List Seen) (i : Nat) : Prop :=
  tagNear seen i 0 = some r.source ∧ r.context.HoldsAt seen i

instance TransformRule.decidableFiresAt (r : TransformRule) (seen : List Seen) (i : Nat) :
    Decidable (r.FiresAt seen i) :=
  inferInstanceAs (Decidable (_ ∧ _))

section FiresAt

variable {seen : List Seen} {i : Nat} {v : View Seen}

theorem Context.holds_iff (h : (views seen)[i]? = some v) (c : Context) :
    c.holds v = true ↔ c.HoldsAt seen i := by
  have hone : neighbour? seen i (-1) = v.left[0]? := neighbour?_left h 0
  have htwo : neighbour? seen i (-2) = v.left[1]? := neighbour?_left h 1
  have hnext : neighbour? seen i 1 = v.right[0]? := neighbour?_right h 0
  have hnextTwo : neighbour? seen i 2 = v.right[1]? := neighbour?_right h 1
  have htag (xs : List Seen) (n : Nat) : xs[n]?.map Seen.tag = tagAt xs n := rfl
  have hword (xs : List Seen) (n : Nat) : xs[n]?.map Seen.word = wordAt xs n := rfl
  cases c <;>
    simp only [holds, HoldsAt, tagNear, wordNear, hone, htwo, hnext, hnextTwo, neighbour?_here h,
      htag, hword, Option.map_some, Option.some.injEq, decide_eq_true_eq, Bool.or_eq_true,
      Bool.and_eq_true]

theorem TransformRule.fires_iff (h : (views seen)[i]? = some v) (r : TransformRule) :
    r.fires v = true ↔ r.FiresAt seen i := by
  rw [fires, FiresAt, Bool.and_eq_true, decide_eq_true_eq, Context.holds_iff h, tagNear,
    neighbour?_here h, Option.map_some, Option.some.injEq]

end FiresAt

/-! ### A rule along a row -/

namespace Tagging

/-- The first guesses for the words of a sentence. -/
theorem row_initial (l : Lexicon) (words : List String) :
    (initial l words).row =
      words.map fun w => (⟨Text.lowercase w, (l.lookup w).1⟩, (l.lookup w).2) := by
  rw [row, Sample.seen_initial, initial, List.map_map, List.zip_map']
  rfl

/-- A word that a rule changes. -/
def changed (rule : TransformRule × Nat) (e : Seen × Origin) : Seen × Origin :=
  ({ e.1 with tag := rule.1.target }, .rule rule.2)

/-- A row that is changed beside one that is put together with another one. -/
theorem zip_map_zipWith {α β γ δ : Type} (f : α → γ) (g : α → β → δ) :
    ∀ (xs : List α) (ys : List β),
      (xs.map f).zip (List.zipWith g xs ys) = (xs.zip ys).map fun e => (f e.1, g e.1 e.2)
  | [], _ => rfl
  | _ :: _, [] => rfl
  | x :: xs, y :: ys => congrArg ((f x, g x y) :: ·) (zip_map_zipWith f g xs ys)

/-- The words after a rule and where their tags come from, by the places of the words. -/
theorem row_step (t : Tagging) (rule : TransformRule × Nat) :
    (t.step rule).row = ((views t.seen).zip t.origins).map fun e =>
      (rule.1.retag e.1, if rule.1.fires e.1 then .rule rule.2 else e.2) :=
  zip_map_zipWith _ _ _ _

theorem row_eq_map_views (t : Tagging) :
    t.row = ((views t.seen).zip t.origins).map fun e => (e.1.here, e.2) := by
  have hhere : (views t.seen).map View.here = t.seen := map_here_viewsAfter [] t.seen
  calc t.row = ((views t.seen).map View.here).zip t.origins := by rw [hhere, row]
    _ = ((views t.seen).zip t.origins).map fun e => (e.1.here, e.2) := List.zip_map_left

/-- A rule changes the words where it fires, on the sentence as it was before, and no other ones. -/
theorem getElem?_row_step (t : Tagging) (rule : TransformRule × Nat) (i : Nat) :
    (t.step rule).row[i]? = t.row[i]?.map fun e =>
      if rule.1.FiresAt t.seen i then changed rule e else e := by
  rw [row_step, row_eq_map_views, List.getElem?_map, List.getElem?_map, Option.map_map]
  refine Option.map_congr fun ⟨v, o⟩ hplace => ?_
  have hview : (views t.seen)[i]? = some v := (List.getElem?_zip_eq_some.mp hplace).1
  have hiff := TransformRule.fires_iff hview rule.1
  by_cases hfires : rule.1.FiresAt t.seen i
  · simp [TransformRule.retag, changed, hiff.mpr hfires, hfires]
  · simp [TransformRule.retag, mt hiff.mp hfires, hfires]

theorem getElem?_finish {t : Tagging} {s : TagSet} {tokens : List Token} {i : Nat}
    {x : TaggedToken} : (t.finish s tokens)[i]? = some x ↔ ∃ token e, tokens[i]? = some token ∧
      t.row[i]? = some e ∧ x = ⟨token, s.nameOrFallback e.1.tag, e.2⟩ := by
  rw [finish, List.getElem?_map, Option.map_eq_some_iff]
  constructor
  · rintro ⟨⟨token, e⟩, hplace, rfl⟩
    obtain ⟨htoken, he⟩ := List.getElem?_zip_eq_some.mp hplace
    exact ⟨token, e, htoken, he, rfl⟩
  · rintro ⟨token, e, htoken, he, rfl⟩
    exact ⟨(token, e), List.getElem?_zip_eq_some.mpr ⟨htoken, he⟩, rfl⟩

end Tagging

end ShallowTransfer
