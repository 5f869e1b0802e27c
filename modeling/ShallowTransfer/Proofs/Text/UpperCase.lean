import ShallowTransfer.Proofs.Text.LowerCase

/-!
Upper case characters are their own upper case forms (`upperChar_of_isUpper`), so the first letter
of a title case text is capitalized already. This is read off the tables: no run of upper case
characters meets a character with an upper case form of its own (`uppercase_apart`). Nor does it
meet a lower case form (`images_avoid_uppercase`), so a title case text whose first letter has one
holds no upper case character in lower case (`not_isUpper_of_mem_lowercase`).
-/

namespace ShallowTransfer.Text

/-- The runs of characters with an upper case form of their own. -/
def raisedRuns : List CharRun :=
  upperShifts.map CaseRun.run ++ upperExpansions.map fun entry => ⟨entry.1, entry.1, 1⟩

theorem uppercase_apart : Apart uppercaseRuns raisedRuns := by
  decide +kernel

theorem not_covers_of_isUpper {c : Char} (hc : isUpper c = true) {s : CharRun}
    (hs : s ∈ raisedRuns) : s.covers c.toNat = false := by
  obtain ⟨r, hr, hcovers⟩ := List.any_eq_true.mp hc
  exact uppercase_apart r hr s hs _ hcovers

/-- An upper case character is its own upper case form. -/
theorem upperChar_of_isUpper {c : Char} (hc : isUpper c = true) : upperChar c = [c] := by
  have hlookup : upperExpansions.lookup c.toNat = none :=
    lookup_eq_none_of_not_covers fun entry hentry => not_covers_of_isUpper hc <|
      List.mem_append_right _ (List.mem_map.mpr ⟨entry, hentry, rfl⟩)
  have hshift : shiftCase upperShifts c = c :=
    shiftCase_of_not_covers fun r hr => not_covers_of_isUpper hc <|
      List.mem_append_left _ (List.mem_map_of_mem hr)
  rw [upperChar, hlookup]
  simp only [hshift]

/-- A title case text is capitalized. -/
theorem capitalize_of_isTitleCase {s : String} (h : isTitleCase s = true) : capitalize s = s := by
  unfold isTitleCase at h
  unfold capitalize
  split at h
  · cases h
  · next c cs hs =>
    rw [Bool.and_eq_true] at h
    rw [upperChar_of_isUpper h.1, List.singleton_append, ← hs, String.ofList_toList]

/-! ### Lower case forms -/

theorem images_avoid_uppercase : Apart (lowerShifts.map CaseRun.image) uppercaseRuns := by
  decide +kernel

theorem expansions_not_uppercase :
    (lowerExpansions.all fun entry => (ofCodePoints entry.2).all fun c => !isUpper c) = true := by
  decide

/-- A character is its own lower case form, or no character of its form is upper case. -/
theorem lowerChar_cases_isUpper (c : Char) :
    lowerChar c = [c] ∨ ∀ d ∈ lowerChar c, isUpper d = false := by
  rcases lowerChar_eq c with hself | ⟨entry, hentry, hform⟩ | ⟨r, hr, hcovers, hform⟩
  · exact .inl hself
  · have hcheck := List.all_eq_true.mp expansions_not_uppercase entry hentry
    simp only [Bool.not_eq_true', List.all_eq_true] at hcheck
    exact .inr (hform ▸ hcheck)
  · rw [hform]
    refine .inr fun d hd => ?_
    rw [List.mem_singleton.mp hd]
    exact inRuns_apply (by decide) images_avoid_uppercase hr hcovers

/-- A character with a lower case form of its own has no upper case character in it, wherever it
stands. -/
theorem not_isUpper_of_mem_lowerAt {before after : List Char} {c d : Char}
    (hd : d ∈ lowerAt before c after) : d = c ∧ Fixed c ∨ isUpper d = false := by
  unfold lowerAt at hd
  split at hd
  · right
    rw [List.mem_singleton.mp hd]
    unfold smallSigma
    split <;> decide
  · next hsigma =>
    rcases lowerChar_cases_isUpper c with hself | hlower
    · rw [hself] at hd
      exact .inl ⟨List.mem_singleton.mp hd, hsigma, hself⟩
    · exact .inr (hlower d hd)

theorem not_isUpper_of_mem_lowerAfter : ∀ {before cs : List Char},
    (∀ c ∈ cs, isUpper c = false) → ∀ d ∈ lowerAfter before cs, isUpper d = false
  | _, [], _, _, hd => nomatch hd
  | before, c :: after, h, d, hd => by
    rw [List.forall_mem_cons] at h
    rw [lowerAfter_cons] at hd
    rcases List.mem_append.mp hd with hd | hd
    · rcases not_isUpper_of_mem_lowerAt hd with ⟨rfl, -⟩ | hlower
      · exact h.1
      · exact hlower
    · exact not_isUpper_of_mem_lowerAfter h.2 d hd

/-- A title case text whose first character changes holds no upper case character in lower case. -/
theorem not_isUpper_of_mem_lowercase {s : String} (htitle : isTitleCase s = true)
    (hchanges : (lowercase s).toList.head? ≠ s.toList.head?) :
    ∀ d ∈ (lowercase s).toList, isUpper d = false := by
  unfold isTitleCase at htitle
  split at htitle
  · cases htitle
  · next c cs hs =>
    rw [lowercase, String.toList_ofList, hs, lowerAfter_cons] at hchanges ⊢
    simp only [Bool.and_eq_true, Bool.not_eq_true', List.any_eq_false, Bool.not_eq_true] at htitle
    intro d hd
    rcases List.mem_append.mp hd with hd | hd
    · rcases not_isUpper_of_mem_lowerAt hd with ⟨-, hfixed⟩ | hlower
      · rw [lowerAt_of_fixed hfixed] at hchanges
        exact absurd rfl hchanges
      · exact hlower
    · exact not_isUpper_of_mem_lowerAfter htitle.2 d hd

/-- A text without upper case characters is not title case. -/
theorem isTitleCase_eq_false {s : String} (h : ∀ c ∈ s.toList, isUpper c = false) :
    isTitleCase s = false := by
  unfold isTitleCase
  split
  · rfl
  · next c cs hs => rw [h c (by rw [hs]; exact List.mem_cons_self), Bool.false_and]

/-- A text without upper case characters is not upper case. -/
theorem isUppercase_eq_false {s : String} (h : ∀ c ∈ s.toList, isUpper c = false) :
    isUppercase s = false := by
  have hnone : s.toList.any isUpper = false :=
    List.any_eq_false.mpr fun c hc => Bool.eq_false_iff.mp (h c hc)
  rw [isUppercase, hnone, Bool.false_and]

/-- A text with a lower case character is not upper case. -/
theorem isUppercase_eq_false_of_isLower {s : String} (h : ∃ c ∈ s.toList, isLower c = true) :
    isUppercase s = false := by
  rw [isUppercase, List.any_eq_true.mpr h, Bool.not_true, Bool.and_false]

end ShallowTransfer.Text
