import Mathlib.Data.List.TakeWhile
import ShallowTransfer.Text.Words

/-!
Trimming leaves a text whose ends are not white space (`trimmed_trimChars`), and it leaves every
such text as it is (`trimChars_of_trimmed`). Nothing is left of the blank texts alone
(`trim_eq_empty_iff`).
-/

namespace ShallowTransfer.Text

/-- Neither end of the text is white space. -/
def Trimmed (cs : List Char) : Prop :=
  (∀ c ∈ cs.head?, isBlank c = false) ∧ ∀ c ∈ cs.getLast?, isBlank c = false

theorem not_isBlank_of_head?_dropWhile {cs : List Char} :
    ∀ c ∈ (cs.dropWhile isBlank).head?, isBlank c = false := by
  intro c hc
  have hnot := List.head?_dropWhile_not isBlank cs
  rwa [Option.mem_def.mp hc] at hnot

theorem dropWhile_isBlank_of_head? {cs : List Char} (h : ∀ c ∈ cs.head?, isBlank c = false) :
    cs.dropWhile isBlank = cs := by
  cases cs with
  | nil => rfl
  | cons c rest => rw [List.dropWhile_cons_of_neg (by rw [h c rfl]; decide)]

/-- The ends of a trimmed text are not white space. -/
theorem trimmed_trimChars (cs : List Char) : Trimmed (trimChars cs) := by
  unfold trimChars Trimmed
  rw [List.head?_reverse, List.getLast?_reverse]
  refine ⟨fun c hc => ?_, not_isBlank_of_head?_dropWhile⟩
  have hsuffix : (cs.dropWhile isBlank).reverse.dropWhile isBlank <:+
      (cs.dropWhile isBlank).reverse := List.dropWhile_suffix isBlank
  have hlast : c ∈ (cs.dropWhile isBlank).reverse.getLast? := by
    obtain ⟨front, happ⟩ := hsuffix
    rw [← happ, List.getLast?_append, Option.mem_def.mp hc]
    rfl
  rw [List.getLast?_reverse] at hlast
  exact not_isBlank_of_head?_dropWhile c hlast

/-- A text whose ends are not white space stays as it is. -/
theorem trimChars_of_trimmed {cs : List Char} (h : Trimmed cs) : trimChars cs = cs := by
  have hback : ∀ c ∈ cs.reverse.head?, isBlank c = false := by
    rw [List.head?_reverse]
    exact h.2
  rw [trimChars, dropWhile_isBlank_of_head? h.1, dropWhile_isBlank_of_head? hback,
    List.reverse_reverse]

/-- Trimming once is enough. -/
theorem trim_trim (s : String) : trim (trim s) = trim s := by
  rw [trim, trim, String.toList_ofList, trimChars_of_trimmed (trimmed_trimChars s.toList)]

/-- Trimming takes everything away if and only if there is nothing but white space. -/
theorem trimChars_eq_nil_iff {cs : List Char} : trimChars cs = [] ↔ cs.all isBlank = true := by
  rw [trimChars, List.reverse_eq_nil_iff, List.dropWhile_eq_nil_iff, List.all_eq_true]
  have hfront : (∀ c ∈ (cs.dropWhile isBlank).reverse, isBlank c = true) ↔
      cs.dropWhile isBlank = [] := by
    cases hcs : cs.dropWhile isBlank with
    | nil => simp
    | cons c rest =>
      have hc : isBlank c = false := not_isBlank_of_head?_dropWhile c (by rw [hcs]; rfl)
      simp [hc]
  rw [hfront, List.dropWhile_eq_nil_iff]

/-- Nothing is left of a text if and only if it is blank. -/
theorem trim_eq_empty_iff {s : String} : trim s = "" ↔ isBlankText s = true := by
  rw [trim, isBlankText, ← trimChars_eq_nil_iff, ← String.toList_eq_nil_iff, String.toList_ofList]

end ShallowTransfer.Text
