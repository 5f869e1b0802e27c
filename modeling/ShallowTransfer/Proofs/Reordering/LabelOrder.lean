import ShallowTransfer.Proofs.Reordering.Order
import ShallowTransfer.Proofs.Traversal

/-!
The order that two label sequences describe. Each label of the output takes the first free place of
the pattern that has this label (`Placed`). Such an order exists whenever the output is a
rearrangement of the pattern (`exists_placed`), it keeps equal labels in their order
(`Placed.keeps`), and it is the only rearrangement that does (`placed_of_keeps`).
-/

namespace ShallowTransfer

/-- Elements of a row with equal labels keep their relative order. -/
def KeepsEqual (labels : List String) (order : List Nat) : Prop :=
  order.Pairwise fun i j => labels[i]? = labels[j]? → i < j

instance (labels : List String) (order : List Nat) : Decidable (KeepsEqual labels order) :=
  inferInstanceAs (Decidable (order.Pairwise fun i j => labels[i]? = labels[j]? → i < j))

namespace SyntacticRule

variable {labels outs : List String} {used order : List Nat} {label : String} {i : Nat}

/-! ### Free places -/

/-- The free place of a label is the first one that has this label and is not used. -/
theorem freePlace?_eq_some_iff :
    freePlace? labels used label = some i ↔
      labels[i]? = some label ∧ i ∉ used ∧ ∀ j < i, labels[j]? = some label → j ∈ used := by
  unfold freePlace?
  rw [Option.map_eq_some_iff]
  constructor
  · rintro ⟨⟨l, place⟩, hfind, rfl⟩
    obtain ⟨hfree, k, hk, hget, hbefore⟩ := List.find?_eq_some_iff_getElem.mp hfind
    rw [List.getElem_zipIdx, Nat.zero_add, Prod.mk.injEq] at hget
    obtain ⟨hlabel, rfl⟩ := hget
    rw [List.length_zipIdx] at hk
    simp only [Bool.and_eq_true, Bool.not_eq_true', decide_eq_true_eq, List.contains_eq_mem,
      decide_eq_false_iff_not] at hfree
    refine ⟨by rw [List.getElem?_eq_getElem hk, hlabel, hfree.2], hfree.1, fun j hj hget => ?_⟩
    have hj' := hbefore j hj
    rw [List.getElem_zipIdx, Nat.zero_add] at hj'
    obtain ⟨hlt, heq⟩ := List.getElem?_eq_some_iff.mp hget
    simpa [heq] using hj'
  · rintro ⟨hget, hfree, hbefore⟩
    obtain ⟨hlt, heq⟩ := List.getElem?_eq_some_iff.mp hget
    refine ⟨(label, i), List.find?_eq_some_iff_getElem.mpr ⟨?_, i, ?_, ?_, fun j hj => ?_⟩, rfl⟩
    · simpa using hfree
    · rwa [List.length_zipIdx]
    · rw [List.getElem_zipIdx, Nat.zero_add, heq]
    · rw [List.getElem_zipIdx, Nat.zero_add]
      have hj' : j < labels.length := Nat.lt_trans hj hlt
      by_cases hlabel : labels[j] = label
      · have := hbefore j hj (List.getElem?_eq_some_iff.mpr ⟨hj', hlabel⟩)
        simpa [hlabel] using this
      · simp [hlabel]

/-- A label with a place that is not used has a free place. -/
theorem exists_freePlace? (hget : labels[i]? = some label) (hfree : i ∉ used) :
    ∃ j, freePlace? labels used label = some j := by
  obtain ⟨hlt, heq⟩ := List.getElem?_eq_some_iff.mp hget
  unfold freePlace?
  rw [← Option.isSome_iff_exists, Option.isSome_map, List.find?_isSome]
  refine ⟨(label, i), ?_, by simpa using hfree⟩
  rw [List.mem_iff_getElem]
  refine ⟨i, by rwa [List.length_zipIdx], ?_⟩
  rw [List.getElem_zipIdx, Nat.zero_add, heq]

/-- The labels at the places that are not used. -/
def leftOver (labels : List String) (used : List Nat) : List String :=
  rearrange ((List.range labels.length).filter fun i => !used.contains i) labels

theorem leftOver_nil (labels : List String) : leftOver labels [] = labels := by
  have hall : (List.range labels.length).filter (fun i => !([] : List Nat).contains i) =
      List.range labels.length :=
    List.filter_eq_self.mpr fun _ _ => rfl
  rw [leftOver, hall, rearrange_range]

theorem mem_leftOver (h : label ∈ leftOver labels used) :
    ∃ i, labels[i]? = some label ∧ i ∉ used := by
  obtain ⟨i, hi, hget⟩ := List.mem_filterMap.mp h
  refine ⟨i, hget, ?_⟩
  simpa using (List.mem_filter.mp hi).2

/-- Using a place takes its label away from those that are left. -/
theorem leftOver_perm_cons (hget : labels[i]? = some label) (hfree : i ∉ used) :
    (leftOver labels used).Perm (label :: leftOver labels (i :: used)) := by
  obtain ⟨hlt, -⟩ := List.getElem?_eq_some_iff.mp hget
  have hmem : i ∈ (List.range labels.length).filter fun j => !used.contains j :=
    List.mem_filter.mpr ⟨List.mem_range.mpr hlt, by simpa using hfree⟩
  have hnodup : ((List.range labels.length).filter fun j => !used.contains j).Nodup :=
    List.nodup_range.filter _
  have hperm := List.perm_cons_erase hmem
  rw [hnodup.erase_eq_filter, List.filter_filter] at hperm
  have hrest : (fun j => (j != i) && !used.contains j) = fun j => !(i :: used).contains j := by
    funext j
    rw [List.contains_cons, Bool.not_or]
    rfl
  rw [hrest] at hperm
  have hlabels := hperm.filterMap fun j => labels[j]?
  rwa [List.filterMap_cons, hget] at hlabels

/-! ### Placing one label after another -/

/-- The places that the labels of an output take in turn, where the places `used` are taken. -/
inductive Placed (labels : List String) : List Nat → List String → List Nat → Prop
  | nil (used : List Nat) : Placed labels used [] []
  | cons {used order : List Nat} {label : String} {outs : List String} {i : Nat} :
      freePlace? labels used label = some i → Placed labels (i :: used) outs order →
      Placed labels used (label :: outs) (i :: order)

/-- The labels that are left can be placed in any order. -/
theorem exists_placed : ∀ {outs : List String} {used : List Nat},
    outs.Perm (leftOver labels used) → ∃ order, Placed labels used outs order
  | [], used, _ => ⟨[], Placed.nil used⟩
  | label :: outs, used, h => by
    obtain ⟨k, hget, hfree⟩ := mem_leftOver (h.subset List.mem_cons_self)
    obtain ⟨i, hi⟩ := exists_freePlace? hget hfree
    obtain ⟨hget, hfree, -⟩ := freePlace?_eq_some_iff.mp hi
    have hrest := (h.trans (leftOver_perm_cons hget hfree)).cons_inv
    obtain ⟨order, horder⟩ := exists_placed hrest
    exact ⟨i :: order, Placed.cons hi horder⟩

theorem Placed.functional {order' : List Nat} (h : Placed labels used outs order)
    (h' : Placed labels used outs order') : order = order' := by
  induction h generalizing order' with
  | nil => cases h'; rfl
  | cons hi _ ih =>
    cases h' with
    | cons hi' hrest =>
      cases hi.symm.trans hi'
      rw [ih hrest]

theorem Placed.labels_eq (h : Placed labels used outs order) :
    List.Forall₂ (fun l i => labels[i]? = some l) outs order := by
  induction h with
  | nil => exact List.Forall₂.nil
  | cons hi _ ih => exact List.Forall₂.cons (freePlace?_eq_some_iff.mp hi).1 ih

theorem Placed.not_mem_used (h : Placed labels used outs order) : ∀ i ∈ order, i ∉ used := by
  induction h with
  | nil => intro i hi; cases hi
  | cons hi _ ih =>
    intro j hj
    rcases List.mem_cons.mp hj with rfl | hj
    · exact (freePlace?_eq_some_iff.mp hi).2.1
    · exact fun hmem => ih j hj (List.mem_cons_of_mem _ hmem)

theorem Placed.nodup (h : Placed labels used outs order) : order.Nodup := by
  induction h with
  | nil => exact List.nodup_nil
  | cons _ hrest ih =>
    exact List.nodup_cons.mpr ⟨fun hmem => hrest.not_mem_used _ hmem List.mem_cons_self, ih⟩

/-- Equal labels are placed from left to right. -/
theorem Placed.keeps (h : Placed labels used outs order) : KeepsEqual labels order := by
  induction h with
  | nil => exact List.Pairwise.nil
  | @cons used order label outs i hi hrest ih =>
    refine List.pairwise_cons.mpr ⟨fun j hj hsame => ?_, ih⟩
    obtain ⟨hget, -, hbefore⟩ := freePlace?_eq_some_iff.mp hi
    have hfree := hrest.not_mem_used j hj
    rcases Nat.lt_trichotomy i j with hlt | rfl | hgt
    · exact hlt
    · exact absurd List.mem_cons_self hfree
    · exact absurd (List.mem_cons_of_mem _ (hbefore j hgt (hsame ▸ hget))) hfree

/-- Among the orders that use up all places, the one that keeps equal labels is the one that placing
finds. -/
theorem placed_of_keeps : ∀ {outs : List String} {used order : List Nat},
    List.Forall₂ (fun l i => labels[i]? = some l) outs order → (used ++ order).Nodup →
    (∀ j < labels.length, j ∈ used ++ order) → KeepsEqual labels order →
    Placed labels used outs order
  | [], used, order, hlabels, _, _, _ => by
    cases hlabels
    exact Placed.nil used
  | label :: outs, used, order, hlabels, hnodup, hall, hkeeps => by
    cases hlabels with
    | @cons _ i _ rest hget hrest =>
      obtain ⟨hfirst, hkeeps⟩ := List.pairwise_cons.mp hkeeps
      have hmove : (used ++ i :: rest).Perm (i :: used ++ rest) := List.perm_middle
      have hnodup' := hmove.nodup_iff.mp hnodup
      have hfree : i ∉ used := fun hmem =>
        (List.nodup_cons.mp hnodup').1 (List.mem_append_left _ hmem)
      refine Placed.cons (freePlace?_eq_some_iff.mpr ⟨hget, hfree, fun j hj hsame => ?_⟩) ?_
      · obtain ⟨hlt, -⟩ := List.getElem?_eq_some_iff.mp hsame
        rcases List.mem_append.mp (hall j hlt) with hused | hmem
        · exact hused
        · rcases List.mem_cons.mp hmem with rfl | hmem
          · omega
          · have := hfirst j hmem (hget.trans hsame.symm)
            omega
      · exact placed_of_keeps hrest hnodup' (fun j hj => hmove.mem_iff.mp (hall j hj)) hkeeps

/-- Placing all labels of a pattern uses each of its places once. -/
theorem Placed.perm (h : Placed labels [] outs order) (hperm : outs.Perm labels) :
    order.Perm (List.range labels.length) := by
  have hlen : order.length = labels.length := by
    rw [← hperm.length_eq, h.labels_eq.length_eq]
  have hsub : order ⊆ List.range labels.length := by
    intro i hi
    obtain ⟨l, -, hget⟩ := exists_of_mem_forall₂ h.labels_eq hi
    exact List.mem_range.mpr (List.getElem?_eq_some_iff.mp hget).1
  refine (h.nodup.subperm hsub).perm_of_length_le ?_
  rw [List.length_range]
  exact Nat.le_of_eq hlen.symm

/-! ### The order of a rule -/

theorem orderFor_cons_eq_ok_iff {name : String} {level : RuleLevel} {text : String}
    {rest : List String} :
    orderFor name level labels used (text :: rest) = .ok order ↔
      ∃ label i more, normalizeLabel level text = .ok label ∧
        freePlace? labels used label = some i ∧
        orderFor name level labels (i :: used) rest = .ok more ∧ order = i :: more := by
  rw [orderFor, bind_eq_ok_iff]
  constructor
  · rintro ⟨label, hlabel, h⟩
    split at h
    · cases h
    · next i hplace =>
      obtain ⟨more, hmore, heq⟩ := bind_eq_ok_iff.mp h
      cases heq
      exact ⟨label, i, more, hlabel, hplace, hmore, rfl⟩
  · rintro ⟨label, i, more, hlabel, hplace, hmore, rfl⟩
    refine ⟨label, hlabel, ?_⟩
    rw [hplace]
    exact bind_eq_ok_iff.mpr ⟨more, hmore, rfl⟩

/-- An order is found if and only if all labels are read and can be placed. -/
theorem orderFor_eq_ok_iff {name : String} {level : RuleLevel} :
    ∀ {used : List Nat} {texts : List String} {order : List Nat},
      orderFor name level labels used texts = .ok order ↔
        ∃ outs, List.Forall₂ (fun t l => normalizeLabel level t = .ok l) texts outs ∧
          Placed labels used outs order
  | used, [], order => by
    rw [orderFor]
    constructor
    · intro h; cases h
      exact ⟨[], List.Forall₂.nil, Placed.nil used⟩
    · rintro ⟨outs, hread, hplaced⟩
      cases hread; cases hplaced
      rfl
  | used, text :: rest, order => by
    rw [orderFor_cons_eq_ok_iff]
    constructor
    · rintro ⟨label, i, more, hlabel, hplace, hmore, rfl⟩
      obtain ⟨outs, hread, hplaced⟩ := orderFor_eq_ok_iff.mp hmore
      exact ⟨label :: outs, List.Forall₂.cons hlabel hread, Placed.cons hplace hplaced⟩
    · rintro ⟨outs, hread, hplaced⟩
      cases hread with
      | @cons _ label _ outs hlabel hread =>
        cases hplaced with
        | @cons _ more _ _ i hplace hplaced =>
          exact ⟨label, i, more, hlabel, hplace, orderFor_eq_ok_iff.mpr ⟨outs, hread, hplaced⟩, rfl⟩

theorem ofOrder_eq_ok_iff {name : String} {pattern : Pattern} {r : SyntacticRule} :
    ofOrder name pattern order = .ok r ↔
      r.name = name ∧ r.pattern = pattern ∧ r.order = order ∧ r.within = [] ∧
        r.singleChunk = false := by
  unfold ofOrder
  constructor
  · intro h
    split at h
    · cases h
      exact ⟨rfl, rfl, rfl, rfl, rfl⟩
    · cases h
  · obtain ⟨rname, rpattern, rorder, rwithin, rsingle, sound⟩ := r
    rintro ⟨rfl, rfl, rfl, rfl, rfl⟩
    split
    · rfl
    · next e h =>
      rw [sound] at h
      cases h

/-- A rule is made of two label sequences if and only if all labels are read and those of the output
can be placed in the pattern, and then this gives its order. -/
theorem ofLabels_eq_ok_iff {name : String} {level : RuleLevel} {pattern output : List String}
    {r : SyntacticRule} :
    ofLabels name level pattern output = .ok r ↔
      Pattern.parse level pattern = .ok r.pattern ∧
        (∃ outs, List.Forall₂ (fun t l => normalizeLabel level t = .ok l) output outs ∧
          Placed r.pattern.labels [] outs r.order) ∧
        r.name = name ∧ r.within = [] ∧ r.singleChunk = false := by
  unfold ofLabels
  rw [bind_eq_ok_iff]
  constructor
  · rintro ⟨row, hrow, h⟩
    obtain ⟨order, horder, h⟩ := bind_eq_ok_iff.mp h
    obtain ⟨hname, rfl, rfl, hwithin, hsingle⟩ := ofOrder_eq_ok_iff.mp h
    exact ⟨hrow, orderFor_eq_ok_iff.mp horder, hname, hwithin, hsingle⟩
  · rintro ⟨hrow, hplaced, hname, hwithin, hsingle⟩
    refine ⟨r.pattern, hrow, bind_eq_ok_iff.mpr ⟨r.order, orderFor_eq_ok_iff.mpr hplaced, ?_⟩⟩
    exact ofOrder_eq_ok_iff.mpr ⟨hname, rfl, rfl, hwithin, hsingle⟩

end SyntacticRule

end ShallowTransfer
