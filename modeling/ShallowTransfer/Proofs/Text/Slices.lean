import Mathlib.Data.String.Basic
import ShallowTransfer.Proofs.Text.Words
import ShallowTransfer.Text.Slices

/-!
Words as slices are the words of the text (`sliceWords_eq`): all positions that the scan of a part
slices at are borders of characters. The scan keeps its part in three pieces, the characters whose
words are done, a pending run from the start of the word at hand on, and the rest; a seam stands in
front of every splitting character, so the words of the pieces are put together one by one.
-/

namespace ShallowTransfer.Text

open String (utf8Len)

/-! ### Slices -/

theorem isValid_utf8Len (front back : List Char) :
    String.Pos.Raw.isValid (String.ofList (front ++ back)) ⟨utf8Len front⟩ = true := by
  rw [String.Pos.Raw.isValid_eq_true_iff, String.Pos.Raw.isValid_iff_exists_append]
  exact ⟨String.ofList front, String.ofList back, String.ofList_append, by simp⟩

/-- Positions that are borders of characters, in ascending order, have the text between them. -/
theorem slice?_append (front mid back : List Char) :
    slice? (String.ofList (front ++ mid ++ back)) ⟨utf8Len front⟩ ⟨utf8Len (front ++ mid)⟩ =
      some (String.ofList mid) := by
  have hstart := isValid_utf8Len front (mid ++ back)
  have hle : (⟨utf8Len front⟩ : String.Pos.Raw) ≤ ⟨utf8Len (front ++ mid)⟩ := by
    rw [String.Pos.Raw.le_iff, String.utf8Len_append]
    exact Nat.le_add_right _ _
  rw [← List.append_assoc] at hstart
  rw [slice?, hstart, isValid_utf8Len, decide_eq_true hle, String.utf8Len_append,
    String.extract_of_valid]
  rfl

section Scan

variable {part done pending rest : List Char}

/-- The pending run is sliced out as a word, unless it is empty. -/
theorem pushSlice_eq (hpart : done ++ pending ++ rest = part) (hpending : Plain pending)
    (words : List String) :
    pushSlice (String.ofList part) words ⟨utf8Len done⟩ ⟨utf8Len (done ++ pending)⟩ =
      some (words ++ (splitChars pending).map String.ofList) := by
  rw [← hpart, pushSlice, slice?_append, splitChars_of_plain hpending]
  cases pending with
  | nil => simp
  | cons c cs => simp [String.Pos.Raw.lt_iff, Char.utf8Size_pos]

theorem add_char_eq (cs : List Char) (c : Char) :
    (⟨utf8Len cs⟩ : String.Pos.Raw) + c = ⟨utf8Len (cs ++ [c])⟩ := by
  simp [String.Pos.Raw.ext_iff]

/-- A splitting character is sliced out as a word. -/
theorem slice?_mark {c : Char} (hpart : done ++ c :: rest = part) :
    slice? (String.ofList part) ⟨utf8Len done⟩ ⟨utf8Len (done ++ [c])⟩ =
      some (String.ofList [c]) := by
  rw [← hpart, List.append_cons, slice?_append]

/-- The words behind the scanned characters are the pending run and those of the rest. -/
theorem scan_rest (hpart : done ++ pending ++ rest = part) (hpending : Plain pending)
    (hrest : ∀ c ∈ rest, isBlank c = false) (words : List String) :
    ((charIndices ⟨utf8Len (done ++ pending)⟩ rest).foldlM (Scan.step (String.ofList part))
        ⟨⟨utf8Len done⟩, words⟩ >>= Scan.close (String.ofList part)) =
      some (words ++ (splitChars (pending ++ rest)).map String.ofList) := by
  induction rest generalizing done pending words with
  | nil =>
    have hend : (String.ofList part).rawEndPos = ⟨utf8Len (done ++ pending)⟩ := by
      rw [String.rawEndPos_ofList, ← hpart, List.append_nil]
    have hpush := pushSlice_eq hpart hpending words
    rw [← hend] at hpush
    rw [List.append_nil]
    exact hpush
  | cons c rest ih =>
    obtain ⟨hblank, hrest⟩ := List.forall_mem_cons.mp hrest
    rw [charIndices, List.foldlM_cons, Scan.step]
    by_cases hc : isSplitting c = true
    · -- The pending run and the character are two words, and nothing is pending behind them.
      have happart : StartsApart (c :: rest) := startsApart_cons.mpr (.inr hc)
      have hmark : slice? (String.ofList part) ⟨utf8Len (done ++ pending)⟩
          ⟨utf8Len (done ++ pending ++ [c])⟩ = some (String.ofList [c]) := slice?_mark hpart
      have hdone : done ++ pending ++ [c] ++ [] ++ rest = part := by simpa using hpart
      have hbehind := ih hdone (by simp [Plain]) hrest
        (words ++ (splitChars pending).map String.ofList ++ [String.ofList [c]])
      rw [if_pos hc, pushSlice_eq hpart hpending, add_char_eq, hmark, splitChars_append _ happart,
        splitChars_cons_of_isSplitting hc]
      simpa using hbehind
    · -- The character is pending too.
      have hdone : done ++ (pending ++ [c]) ++ rest = part := by simpa using hpart
      have hplain : Plain (pending ++ [c]) := by
        rw [Plain, List.forall_mem_append, List.forall_mem_singleton]
        exact ⟨hpending, hblank, by simpa using hc⟩
      have hbehind := ih hdone hplain hrest words
      rw [if_neg hc, add_char_eq, List.append_assoc done]
      simpa using hbehind

end Scan

/-- A part without white space is sliced into its words. -/
theorem slicePart_eq {part : String} (h : ∀ c ∈ part.toList, isBlank c = false)
    (words : List String) : slicePart words part = some (words ++ splitWords part) := by
  have hpieces : [] ++ [] ++ part.toList = part.toList := rfl
  have hscan := scan_rest hpieces (by simp [Plain]) h words
  rwa [List.nil_append, List.nil_append, String.ofList_toList] at hscan

/-! ### Parts -/

/-- What holds of all texts without white space, and of a text with one more of them and white space
in front if it holds of the text, holds of all texts. -/
@[elab_as_elim]
theorem blanks_induction {P : List Char → Prop}
    (last : ∀ front, (∀ c ∈ front, isBlank c = false) → P front)
    (next : ∀ front b rest, (∀ c ∈ front, isBlank c = false) → isBlank b = true → P rest →
      P (front ++ b :: rest)) (cs : List Char) : P cs := by
  -- The characters gone through since the last white space are kept in front of the others.
  suffices h : ∀ rest front : List Char, (∀ c ∈ front, isBlank c = false) → P (front ++ rest) from
    h cs [] (by simp)
  intro rest
  induction rest with
  | nil => exact fun front hfront => (List.append_nil front).symm ▸ last front hfront
  | cons c rest ih =>
    intro front hfront
    by_cases hc : isBlank c = true
    · exact next front c rest hfront hc (ih [] (by simp))
    · rw [List.append_cons]
      refine ih (front ++ [c]) ?_
      rw [List.forall_mem_append, List.forall_mem_singleton]
      exact ⟨hfront, by simpa using hc⟩

/-- The parts between white space have none. -/
theorem not_isBlank_of_mem_splitOnP (cs : List Char) :
    ∀ part ∈ cs.splitOnP isBlank, ∀ c ∈ part, isBlank c = false := by
  induction cs using blanks_induction with
  | last front hfront =>
    rw [List.splitOnP_eq_singleton hfront, List.forall_mem_singleton]
    exact hfront
  | next front b rest hfront hb ih =>
    rw [List.splitOnP_append_cons_of_forall_mem hfront b hb, List.forall_mem_cons]
    exact ⟨hfront, ih⟩

/-- The words of a text are those of its parts between white space. -/
theorem flatMap_splitChars_splitOnP (cs : List Char) :
    (cs.splitOnP isBlank).flatMap splitChars = splitChars cs := by
  induction cs using blanks_induction with
  | last front hfront => rw [List.splitOnP_eq_singleton hfront, List.flatMap_singleton]
  | next front b rest hfront hb ih =>
    rw [List.splitOnP_append_cons_of_forall_mem hfront b hb, List.flatMap_cons, ih,
      splitChars_append _ (startsApart_cons.mpr (.inl hb)), splitChars_cons_of_isBlank hb]

/-- Empty parts have no words. -/
theorem flatMap_splitChars_filter (parts : List (List Char)) :
    (parts.filter fun part => !part.isEmpty).flatMap splitChars = parts.flatMap splitChars := by
  induction parts with
  | nil => rfl
  | cons part parts ih => cases part <;> simp [ih, splitChars_nil]

theorem not_isBlank_of_mem_blankSeparated (s : String) :
    ∀ part ∈ blankSeparated s, ∀ c ∈ part.toList, isBlank c = false := by
  rw [blankSeparated, List.forall_mem_map]
  intro part hpart
  rw [String.toList_ofList]
  exact not_isBlank_of_mem_splitOnP s.toList part (List.mem_of_mem_filter hpart)

theorem flatMap_splitWords_blankSeparated (s : String) :
    (blankSeparated s).flatMap splitWords = splitWords s := by
  have hparts := flatMap_splitChars_filter (s.toList.splitOnP isBlank)
  rw [flatMap_splitChars_splitOnP] at hparts
  simp only [blankSeparated, List.flatMap_map, splitWords, String.toList_ofList]
  rw [← hparts, List.map_flatMap]

/-- Parts without white space are sliced into their words one after another. -/
theorem foldlM_slicePart {parts : List String}
    (h : ∀ part ∈ parts, ∀ c ∈ part.toList, isBlank c = false) (words : List String) :
    parts.foldlM slicePart words = some (words ++ parts.flatMap splitWords) := by
  induction parts generalizing words with
  | nil => simp
  | cons part parts ih =>
    rw [List.forall_mem_cons] at h
    rw [List.foldlM_cons, slicePart_eq h.1, List.flatMap_cons, ← List.append_assoc]
    exact ih h.2 _

/-- No text is sliced inside a character, and the slices are its words. -/
theorem sliceWords_eq (s : String) : sliceWords s = some (splitWords s) := by
  rw [sliceWords, foldlM_slicePart (not_isBlank_of_mem_blankSeparated s), List.nil_append,
    flatMap_splitWords_blankSeparated]

/-! ### The words of a text -/

/-- No text is sliced inside a character, and its slices are exactly the words of the text: each one
is a splitting character or a run of characters that are neither splitting characters nor white
space; put together they are the text without its white space; and two neighbouring words that are
both no splitting characters have white space, and nothing else, between them. -/
theorem sliceWords_maximal (s : String) :
    sliceWords s = some (splitWords s) ∧
    (∀ ws, Worded s.toList (ws.map String.toList) ↔ ws = splitWords s) ∧
    (∀ w ∈ splitWords s, w ≠ "" ∧ (IsMark w.toList ∨ IsRun w.toList)) ∧
    String.join (splitWords s) = String.ofList (s.toList.filter fun c => !isBlank c) ∧
    ∀ front v w back, splitWords s = front ++ v :: w :: back →
      ¬ IsMark v.toList → ¬ IsMark w.toList → ∃ before gap behind,
        s = before ++ v ++ gap ++ w ++ behind ∧ isBlankText gap = true ∧ gap ≠ "" ∧
          splitWords before = front ∧ splitWords behind = back := by
  refine ⟨sliceWords_eq s, fun ws => worded_toList_iff, fun w hw => ?_, join_splitWords s, ?_⟩
  · exact ⟨ne_empty_of_mem_splitWords hw, isMark_or_isRun_of_mem hw⟩
  · intro front v w back hwords hv hw
    have hmem : v ∈ splitWords s ∧ w ∈ splitWords s := by simp [hwords]
    exact exists_gap_of_splitWords hwords ((isMark_or_isRun_of_mem hmem.1).resolve_left hv)
      ((isMark_or_isRun_of_mem hmem.2).resolve_left hw)

/-- Two runs with two blanks between them, the second one with a character of two bytes, between
splitting characters. -/
theorem sliceWords_maximal_exclaimed :
    splitWords "¡Oye  tú!" = ["¡", "Oye", "tú", "!"] ∧
      ¬ IsMark "Oye".toList ∧ ¬ IsMark "tú".toList ∧
      sliceWords "¡Oye  tú!" = some ["¡", "Oye", "tú", "!"] ∧ ∃ before gap behind,
        "¡Oye  tú!" = before ++ "Oye" ++ gap ++ "tú" ++ behind ∧ isBlankText gap = true ∧
          gap ≠ "" ∧ splitWords before = ["¡"] ∧ splitWords behind = ["!"] := by
  have hwords : splitWords "¡Oye  tú!" = ["¡", "Oye", "tú", "!"] := by decide
  have hleft : ¬ IsMark "Oye".toList := by
    rintro ⟨c, hc, -⟩
    simp at hc
  have hright : ¬ IsMark "tú".toList := by
    rintro ⟨c, hc, -⟩
    simp at hc
  obtain ⟨hslices, -, -, -, hgap⟩ := sliceWords_maximal "¡Oye  tú!"
  exact ⟨hwords, hleft, hright, hwords ▸ hslices, hgap ["¡"] "Oye" "tú" ["!"] hwords hleft hright⟩

end ShallowTransfer.Text
