import ShallowTransfer.Proofs.Tagging.LastRule

/-!
Tagging is local. The first guess for a word depends on the word alone, and no condition looks
further than two places, where the beginning and the end of the sentence count as seen. So two
places that look alike up to some distance do so after a rule up to a distance that is smaller by
two (`Tagging.alike_step`), and two places with the same words around them, two for each rule, are
tagged alike (`Tagger.tag_local`).
-/

namespace ShallowTransfer

/-! ### Places that look alike -/

/-- Two places of lists that look alike up to a distance: at every distance up to it stands the
same on both sides, or both lists have ended. -/
def Alike {α : Type} (reach : Nat) (xs : List α) (i : Nat) (ys : List α) (j : Nat) : Prop :=
  ∀ d : Int, d.natAbs ≤ reach → neighbour? xs i d = neighbour? ys j d

section Alike

variable {α β : Type} {reach : Nat} {xs ys : List α} {i j : Nat}

theorem Alike.map (h : Alike reach xs i ys j) (f : α → β) :
    Alike reach (xs.map f) i (ys.map f) j := fun d hd => by
  rw [neighbour?_map, neighbour?_map, h d hd]

theorem Alike.getElem?_eq (h : Alike reach xs i ys j) : xs[i]? = ys[j]? := by
  rw [← neighbour?_zero, ← neighbour?_zero]
  exact h 0 (Nat.zero_le _)

/-- The neighbours of places that look alike do so as well, up to a smaller distance. -/
theorem Alike.neighbour {m n : Nat} (h : Alike (m + n) xs i ys j) {d : Int} (hd : d.natAbs ≤ m)
    (hi : 0 ≤ i + d) (hj : 0 ≤ j + d) : Alike n xs (i + d).toNat ys (j + d).toNat := by
  intro e he
  rw [neighbour?_neighbour hi, neighbour?_neighbour hj]
  exact h (d + e) (by omega)

end Alike

section Local

variable {xs ys : List Seen} {i j : Nat}

/-- No condition looks further than two places. -/
theorem Context.holdsAt_iff_of_alike (h : Alike 2 xs i ys j) (c : Context) :
    c.HoldsAt xs i ↔ c.HoldsAt ys j := by
  cases c <;>
    simp only [HoldsAt, tagNear, wordNear, h (-1) (by decide), h (-2) (by decide), h 0 (by decide),
      h 1 (by decide), h 2 (by decide)]

theorem TransformRule.firesAt_iff_of_alike (h : Alike 2 xs i ys j) (r : TransformRule) :
    r.FiresAt xs i ↔ r.FiresAt ys j := by
  rw [FiresAt, FiresAt, Context.holdsAt_iff_of_alike h, tagNear, tagNear, h 0 (by decide)]

end Local

namespace Tagging

/-- A rule changes the neighbours where it fires. -/
theorem neighbour?_row_step (t : Tagging) (rule : TransformRule × Nat) (i : Nat) (d : Int) :
    neighbour? (t.step rule).row i d = (neighbour? t.row i d).map fun e =>
      if rule.1.FiresAt t.seen (i + d).toNat then changed rule e else e := by
  rw [neighbour?, neighbour?]
  split
  · exact getElem?_row_step t rule _
  · rfl

variable {t u : Tagging} {m n i j : Nat}

/-- Places that look alike do so after a rule, up to a distance that is smaller by two. -/
theorem alike_step {reach : Nat} (ht : t.Aligned m) (hu : u.Aligned n)
    (h : Alike (reach + 2) t.row i u.row j) (rule : TransformRule × Nat) :
    Alike reach (t.step rule).row i (u.step rule).row j := by
  intro d hd
  have hrow := h d (by omega)
  rw [neighbour?_row_step, neighbour?_row_step, ← hrow]
  refine Option.map_congr fun e he => ?_
  have hi := nonneg_of_neighbour? he
  have hj := nonneg_of_neighbour? (hrow ▸ he)
  have hseen := (h.neighbour hd hi hj).map Prod.fst
  rw [map_fst_row ht, map_fst_row hu] at hseen
  simp only [TransformRule.firesAt_iff_of_alike hseen]

/-- Every rule takes two off the distance. -/
theorem alike_foldl_step (rules : List (TransformRule × Nat)) :
    ∀ {reach : Nat} {t u : Tagging}, t.Aligned m → u.Aligned n →
      Alike (reach + 2 * rules.length) t.row i u.row j →
        Alike reach (rules.foldl Tagging.step t).row i (rules.foldl Tagging.step u).row j := by
  induction rules with
  | nil => exact fun _ _ h => h
  | cons r rest ih =>
    intro reach t u ht hu h
    have hreach : reach + 2 * (r :: rest).length = reach + 2 * rest.length + 2 := by
      rw [List.length_cons]
      omega
    rw [hreach] at h
    exact ih (ht.step r) (hu.step r) (alike_step ht hu h r)

end Tagging

namespace Tagger

/-- The tag and the origin of a token depend on the words up to two places away for every rule, and
on where the sentence begins and ends within that distance, and on nothing else. -/
theorem tag_local (t : Tagger) {a b : List Token} {i j : Nat}
    (h : ∀ d : Int, d.natAbs ≤ 2 * t.rules.rules.length →
      neighbour? (a.map Token.text) i d = neighbour? (b.map Token.text) j d) :
    (t.tag a)[i]?.map (fun x => (x.tag, x.origin)) =
      (t.tag b)[j]?.map fun x => (x.tag, x.origin) := by
  have hstart : Alike (0 + 2 * t.indexedRules.length) (t.start a).row i (t.start b).row j := by
    rw [Nat.zero_add, indexedRules, List.length_zipIdx, start, start, Tagging.row_initial,
      Tagging.row_initial]
    exact Alike.map h _
  have hend := Tagging.alike_foldl_step t.indexedRules (t.aligned_run a []) (t.aligned_run b [])
    hstart
  have hrow := (hend.map fun e => (t.tagSet.nameOrFallback e.1.tag, e.2)).getElem?_eq
  rw [← List.getElem?_map, ← List.getElem?_map, tag, tag, Tagging.map_finish (t.aligned_run a _),
    Tagging.map_finish (t.aligned_run b _)]
  exact hrow

/-- Two rules look four places far, and the same words stand there around the last word of two
sentences, which begin differently. -/
theorem tag_local_chainTagger :
    (chainTagger.tag (tokensFrom ["b", "b", "b", "b", "b"]))[4]?.map (fun x => (x.tag, x.origin)) =
        some ("x", .rule 1) ∧
      (chainTagger.tag (tokensFrom ["a", "b", "b", "b", "b", "b"]))[5]?.map
        (fun x => (x.tag, x.origin)) = some ("x", .rule 1) := by
  have hwords : ∀ n : Nat, n ≤ 4 →
      neighbour? ["a", "b", "b", "b", "b", "b"] 5 n = neighbour? ["b", "b", "b", "b", "b"] 4 n ∧
        neighbour? ["a", "b", "b", "b", "b", "b"] 5 (-n) =
          neighbour? ["b", "b", "b", "b", "b"] 4 (-n) := by
    decide
  have hend : (chainTagger.tag (tokensFrom ["b", "b", "b", "b", "b"]))[4]?.map
      (fun x => (x.tag, x.origin)) = some ("x", .rule 1) := by
    decide
  refine ⟨hend, (tag_local chainTagger fun d hd => ?_).trans hend⟩
  have hreach : d.natAbs ≤ 4 := hd
  rw [map_text_tokensFrom, map_text_tokensFrom]
  obtain ⟨n, rfl | rfl⟩ := Int.eq_nat_or_neg d
  · exact (hwords n (by omega)).1
  · exact (hwords n (by omega)).2

end Tagger

end ShallowTransfer
