import ShallowTransfer.Proofs.Text.LowerCase
import ShallowTransfer.Tag.Matcher

/-!
Stems and the tags that begin with them. The lower case form of a text depends on what follows the
text in one place only: a capital sigma behind a letter is final at the end of the text, and is not
where another letter follows (`lowerBetween_eq_iff`). A stem is put in lower case on its own and a
tag as a whole, so a stem that ends in a final sigma describes no tag that goes on with a letter,
though the tag begins with the stem; every other tag that begins with a stem is described by it
(`accepts_of_start_iff`).
-/

namespace ShallowTransfer

namespace Text

variable {before cs rest : List Char}

/-! ### The nearest letter -/

/-- The nearest character that is not skipped is looked for in a text and then behind it. -/
theorem meetsCased_append (cs rest : List Char) :
    meetsCased (cs ++ rest) =
      if cs.all isCaseIgnorable then meetsCased rest else meetsCased cs := by
  induction cs with
  | nil => rfl
  | cons c cs ih =>
    by_cases h : isCaseIgnorable c = true
    · simpa [meetsCased, h] using ih
    · simp [meetsCased, h]

/-- What is skipped to its end meets no letter. -/
theorem meetsCased_of_all (h : cs.all isCaseIgnorable = true) : meetsCased cs = false := by
  have hnone : cs.dropWhile isCaseIgnorable = [] := by simpa using h
  rw [meetsCased, hnone]

/-- More characters behind a sigma change its small form where it is final for want of a letter. -/
theorem smallSigma_append_iff : smallSigma before cs = smallSigma before (cs ++ rest) ↔
    ¬ (meetsCased before = true ∧ cs.all isCaseIgnorable = true ∧ meetsCased rest = true) := by
  simp only [smallSigma, meetsCased_append]
  by_cases hall : cs.all isCaseIgnorable = true
  · cases hbefore : meetsCased before <;> cases hrest : meetsCased rest <;>
      simp [hall, meetsCased_of_all hall]
  · simp [hall]

/-! ### Lower case in the middle of a text -/

/-- The lower case form of a text between the characters before it, nearest first, and those after
it. -/
def lowerBetween (after : List Char) : List Char → List Char → List Char
  | _, [] => []
  | before, c :: cs => lowerAt before c (cs ++ after) ++ lowerBetween after (c :: before) cs

/-- A text in two parts: the first part is put in lower case with a view to the second one. -/
theorem lowerAfter_append (rest : List Char) : ∀ before cs,
    lowerAfter before (cs ++ rest) =
      lowerBetween rest before cs ++ lowerAfter (cs.reverse ++ before) rest
  | _, [] => rfl
  | before, c :: cs => by
    rw [List.cons_append, lowerAfter_cons, lowerBetween, lowerAfter_append rest (c :: before) cs,
      List.append_assoc, List.reverse_cons, List.append_assoc, List.singleton_append]

theorem lowerAfter_eq_lowerBetween (before cs : List Char) :
    lowerAfter before cs = lowerBetween [] before cs := by
  simpa [lowerAfter] using lowerAfter_append [] before cs

theorem length_lowerAt (before after after' : List Char) (c : Char) :
    (lowerAt before c after).length = (lowerAt before c after').length := by
  unfold lowerAt
  split <;> rfl

theorem length_lowerBetween (after after' : List Char) : ∀ before cs,
    (lowerBetween after before cs).length = (lowerBetween after' before cs).length
  | _, [] => rfl
  | before, c :: cs => by
    rw [lowerBetween, lowerBetween, List.length_append, List.length_append,
      length_lowerBetween after after' (c :: before) cs,
      length_lowerAt before (cs ++ after) (cs ++ after') c]

/-- A text that goes on after the characters `before` ends in a final sigma: a capital sigma with a
letter before it, and nothing but skipped characters behind it. -/
def EndsInFinalSigma (before cs : List Char) : Prop :=
  ∃ front back, cs = front ++ capitalSigma :: back ∧ meetsCased (front.reverse ++ before) = true ∧
    back.all isCaseIgnorable = true

theorem not_endsInFinalSigma_nil : ¬ EndsInFinalSigma before [] := by
  rintro ⟨front, back, h, -⟩
  cases front <;> cases h

/-- The final sigma is the first character, or it is one of those behind it. -/
theorem endsInFinalSigma_cons_iff {c : Char} : EndsInFinalSigma before (c :: cs) ↔
    (c = capitalSigma ∧ meetsCased before = true ∧ cs.all isCaseIgnorable = true) ∨
      EndsInFinalSigma (c :: before) cs := by
  constructor
  · rintro ⟨front, back, h, hbefore, hback⟩
    cases front with
    | nil =>
      obtain ⟨rfl, rfl⟩ := List.cons.inj h
      exact .inl ⟨rfl, hbefore, hback⟩
    | cons d front =>
      obtain ⟨rfl, rfl⟩ := List.cons.inj h
      exact .inr ⟨front, back, rfl, by simpa using hbefore, hback⟩
  · rintro (⟨rfl, hbefore, hall⟩ | ⟨front, back, rfl, hbefore, hback⟩)
    · exact ⟨[], cs, rfl, hbefore, hall⟩
    · exact ⟨c :: front, back, rfl, by simpa using hbefore, hback⟩

theorem lowerAt_append_iff {c : Char} : lowerAt before c cs = lowerAt before c (cs ++ rest) ↔
    ¬ ((c = capitalSigma ∧ meetsCased before = true ∧ cs.all isCaseIgnorable = true) ∧
      meetsCased rest = true) := by
  unfold lowerAt
  split
  · next h => simp [h, smallSigma_append_iff]
  · next h => simp [h]

/-- What follows a text changes its lower case form exactly where the text ends in a final sigma and
a letter follows. -/
theorem lowerBetween_eq_iff (rest : List Char) : ∀ before cs,
    lowerBetween [] before cs = lowerBetween rest before cs ↔
      ¬ (EndsInFinalSigma before cs ∧ meetsCased rest = true)
  | before, [] => iff_of_true rfl fun h => not_endsInFinalSigma_nil h.1
  | before, c :: cs => by
    have hsplit : lowerBetween [] before (c :: cs) = lowerBetween rest before (c :: cs) ↔
        lowerAt before c cs = lowerAt before c (cs ++ rest) ∧
          lowerBetween [] (c :: before) cs = lowerBetween rest (c :: before) cs := by
      rw [lowerBetween, lowerBetween, List.append_nil]
      constructor
      · -- Both small forms of a sigma are as long, so the first characters end at the same place.
        exact fun h => List.append_inj h (length_lowerAt before cs (cs ++ rest) c)
      · rintro ⟨hhere, hbehind⟩
        rw [hhere, hbehind]
    rw [hsplit, lowerAt_append_iff, lowerBetween_eq_iff rest (c :: before) cs,
      endsInFinalSigma_cons_iff, or_and_right, not_or]

/-- The lower case form of the start of a text is a start of its lower case form, unless a final
sigma of this start is followed by a letter. -/
theorem lowercase_prefix_append_iff (s rest : String) :
    (lowercase s).toList <+: (lowercase (s ++ rest)).toList ↔
      ¬ (EndsInFinalSigma [] s.toList ∧ meetsCased rest.toList = true) := by
  simp only [lowercase, String.toList_ofList, String.toList_append, lowerAfter_append]
  rw [lowerAfter_eq_lowerBetween, ← lowerBetween_eq_iff]
  constructor
  · rintro ⟨more, hmore⟩
    exact (List.append_inj hmore (length_lowerBetween _ _ _ _)).1
  · intro h
    rw [h]
    exact List.prefix_append _ _

end Text

namespace TagMatcher

/-- What is neither empty, nor the mark of all tags, nor marked as a whole tag, is a stem. -/
theorem parse_of_stem {s : String} (hempty : Text.trim s ≠ "") (hany : Text.trim s ≠ "*")
    (hwhole : (Text.trim s).toList.head? ≠ some '=') :
    parse s = .ok (.stem (Text.lowercase (Text.trim s))) := by
  simp only [Text.trim, String.toList_ofList, ne_eq, ← String.toList_inj] at hempty hany hwhole
  unfold parse
  split
  · next h => exact absurd h hempty
  · next h => exact absurd (by rw [h]; rfl) hwhole
  · next h => exact absurd h hany
  · next h => exact absurd (by rw [h]; rfl) hwhole
  · rfl

/-- A text that is read as a stem describes a tag that begins with this text exactly if it is not
the case that the text ends in a final sigma and the tag goes on with a letter. -/
theorem accepts_of_start_iff {s : String} (hempty : Text.trim s ≠ "") (hany : Text.trim s ≠ "*")
    (hwhole : (Text.trim s).toList.head? ≠ some '=') :
    ∃ m, parse s = .ok m ∧ ∀ rest : String, m.accepts (Text.trim s ++ rest) = true ↔
      ¬ (Text.EndsInFinalSigma [] (Text.trim s).toList ∧ Text.meetsCased rest.toList = true) := by
  refine ⟨_, parse_of_stem hempty hany hwhole, fun rest => ?_⟩
  rw [accepts, List.isPrefixOf_iff_prefix, Text.lowercase_prefix_append_iff]

/-- A stem with a final sigma describes a tag that goes on with a hyphen. -/
theorem accepts_of_start_iff_hyphen :
    ∃ m, parse " ΑΣ\t" = .ok m ∧ m.accepts "ΑΣ-Α" = true := by
  have htrim : Text.trim " ΑΣ\t" = "ΑΣ" := by decide
  obtain ⟨m, hparse, haccepts⟩ := accepts_of_start_iff (s := " ΑΣ\t") (by rw [htrim]; decide)
    (by rw [htrim]; decide) (by rw [htrim]; decide)
  have hletter : Text.meetsCased "-Α".toList ≠ true := by decide +kernel
  have htag := (haccepts "-Α").mpr fun h => hletter h.2
  rw [htrim] at htag
  exact ⟨m, hparse, htag⟩

/-- It does not describe the tag in which a letter follows, though the tag begins with the stem. -/
theorem not_accepts_of_start :
    parse "ΑΣ" = .ok (.stem "ας") ∧ "ΑΣ".toList <+: "ΑΣΑ".toList ∧
      accepts (.stem "ας") "ΑΣΑ" = false := by
  decide +kernel

end TagMatcher

end ShallowTransfer
