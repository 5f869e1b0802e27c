import Mathlib.Data.List.Basic
import ShallowTransfer.Text.Words

/-!
The words of a text. Words meet at seams: a text that begins with white space or with a splitting
character adds nothing to the word in front of it, so its words follow those in front
(`splitChars_append`). A word is a splitting character or a run without white space and splitting
characters, and a run ends where the text goes on with one of them. A text has one such list of
words (`worded_iff`), so a run that follows a run has white space before it
(`exists_gap_of_worded`).
-/

namespace ShallowTransfer.Text

/-! ### Seams -/

/-- The text does not begin inside a word: it is empty, or begins with white space or with a
splitting character. -/
def StartsApart (cs : List Char) : Prop :=
  ∀ c ∈ cs.head?, isBlank c = true ∨ isSplitting c = true

theorem startsApart_nil : StartsApart [] := by
  simp [StartsApart]

theorem startsApart_cons {c : Char} {cs : List Char} :
    StartsApart (c :: cs) ↔ isBlank c = true ∨ isSplitting c = true := by
  simp [StartsApart]

/-- What begins a text that does not begin inside a word does not do so either. -/
theorem StartsApart.left {xs ys : List Char} (h : StartsApart (xs ++ ys)) : StartsApart xs := by
  cases xs with
  | nil => exact startsApart_nil
  | cons c xs => exact startsApart_cons.mpr (startsApart_cons.mp h)

/-- No splitting character is white space. -/
theorem not_isBlank_of_isSplitting {c : Char} (h : isSplitting c = true) : isBlank c = false := by
  have hall : (splittingChars.all fun c => !isBlank c) = true := by decide
  simpa using List.all_eq_true.mp hall c (List.contains_iff_mem.mp h)

/-- A text that does not begin inside a word has no front word. -/
theorem cut_of_startsApart {cs : List Char} (h : StartsApart cs) :
    cut cs = ⟨[], splitChars cs⟩ := by
  cases cs with
  | nil => rfl
  | cons c cs =>
    rw [splitChars, cut]
    rcases startsApart_cons.mp h with hc | hc
    · rw [if_pos hc]
      rfl
    · rw [not_isBlank_of_isSplitting hc, if_neg Bool.false_ne_true, if_pos hc]
      rfl

/-- Words behind the last one stay behind it. -/
theorem close_append (c : Cut) (more : List (List Char)) :
    Cut.close ⟨c.front, c.words ++ more⟩ = c.close ++ more := by
  rw [Cut.close, Cut.close]
  split <;> rfl

/-- What follows at a seam leaves the front word of a cut as it is. -/
theorem cut_append (xs : List Char) {ys : List Char} (h : StartsApart ys) :
    cut (xs ++ ys) = ⟨(cut xs).front, (cut xs).words ++ splitChars ys⟩ := by
  induction xs with
  | nil => exact cut_of_startsApart h
  | cons c xs ih =>
    have hclose : (cut (xs ++ ys)).close = (cut xs).close ++ splitChars ys := by
      rw [ih, close_append]
    rw [List.cons_append, cut, hclose, cut]
    split
    · rfl
    · split
      · rfl
      · rw [ih]

/-- The words on both sides of a seam. -/
theorem splitChars_append (xs : List Char) {ys : List Char} (h : StartsApart ys) :
    splitChars (xs ++ ys) = splitChars xs ++ splitChars ys := by
  rw [splitChars, cut_append xs h, close_append]
  rfl

theorem splitChars_nil : splitChars [] = [] :=
  rfl

theorem splitChars_cons_of_isBlank {c : Char} (h : isBlank c = true) (cs : List Char) :
    splitChars (c :: cs) = splitChars cs := by
  rw [splitChars, cut, if_pos h]
  rfl

theorem splitChars_cons_of_isSplitting {c : Char} (h : isSplitting c = true) (cs : List Char) :
    splitChars (c :: cs) = [c] :: splitChars cs := by
  rw [splitChars, cut, not_isBlank_of_isSplitting h, if_neg Bool.false_ne_true, if_pos h]
  rfl

/-! ### Runs -/

/-- A text without white space and splitting characters. -/
def Plain (cs : List Char) : Prop :=
  ∀ c ∈ cs, isBlank c = false ∧ isSplitting c = false

/-- A word that is a splitting character. -/
def IsMark (w : List Char) : Prop :=
  ∃ c, w = [c] ∧ isSplitting c = true

/-- A word that is a text without white space and splitting characters. -/
def IsRun (w : List Char) : Prop :=
  w ≠ [] ∧ Plain w

theorem not_isMark_of_isRun {w : List Char} (h : IsRun w) : ¬ IsMark w := by
  rintro ⟨c, rfl, hc⟩
  rw [(h.2 c (List.mem_singleton_self c)).2] at hc
  cases hc

/-- A text that begins with a run begins inside a word. -/
theorem not_startsApart_of_isRun {w : List Char} (h : IsRun w) (rest : List Char) :
    ¬ StartsApart (w ++ rest) := by
  obtain ⟨hne, hplain⟩ := h
  cases w with
  | nil => exact absurd rfl hne
  | cons c w =>
    obtain ⟨hblank, hsplitting⟩ := hplain c List.mem_cons_self
    rw [List.cons_append, startsApart_cons, hblank, hsplitting]
    simp

theorem cut_of_plain {cs : List Char} (h : Plain cs) : cut cs = ⟨cs, []⟩ := by
  induction cs with
  | nil => rfl
  | cons c cs ih =>
    obtain ⟨⟨hblank, hsplitting⟩, hcs⟩ := List.forall_mem_cons.mp h
    rw [cut, ih hcs, hblank, hsplitting]
    rfl

/-- A text without white space and splitting characters is a single word, unless it is empty. -/
theorem splitChars_of_plain {cs : List Char} (h : Plain cs) :
    splitChars cs = if cs.isEmpty then [] else [cs] := by
  rw [splitChars, cut_of_plain h, Cut.close]

theorem splitChars_of_isRun {w : List Char} (h : IsRun w) : splitChars w = [w] := by
  rw [splitChars_of_plain h.2, if_neg (by simpa using h.1)]

theorem splitChars_of_isMark {w : List Char} (h : IsMark w) : splitChars w = [w] := by
  obtain ⟨c, rfl, hc⟩ := h
  rw [splitChars_cons_of_isSplitting hc, splitChars_nil]

/-! ### The words of a text -/

/-- The words of a text: behind white space comes a splitting character, or a run that ends where
the text does not go on inside a word. -/
inductive Worded : List Char → List (List Char) → Prop
  | nil : Worded [] []
  | blank {c : Char} {rest : List Char} {ws : List (List Char)} :
      isBlank c = true → Worded rest ws → Worded (c :: rest) ws
  | mark {c : Char} {rest : List Char} {ws : List (List Char)} :
      isSplitting c = true → Worded rest ws → Worded (c :: rest) ([c] :: ws)
  | run {w rest : List Char} {ws : List (List Char)} :
      IsRun w → StartsApart rest → Worded rest ws → Worded (w ++ rest) (w :: ws)

/-- A front word and the words of the text behind it. -/
theorem worded_close {c : Cut} {rest : List Char} (hplain : Plain c.front)
    (hrest : StartsApart rest) (h : Worded rest c.words) : Worded (c.front ++ rest) c.close := by
  rw [Cut.close]
  split
  · next hempty => rwa [List.isEmpty_iff.mp hempty, List.nil_append]
  · next hne => exact .run ⟨by simpa using hne, hplain⟩ hrest h

/-- The front word of a cut is the beginning of a run, and its other words are those of the text
behind it. -/
theorem exists_rest_of_cut (cs : List Char) : ∃ rest, (cut cs).front ++ rest = cs ∧
    Plain (cut cs).front ∧ StartsApart rest ∧ Worded rest (cut cs).words := by
  induction cs with
  | nil => exact ⟨[], rfl, by simp [Plain, cut], startsApart_nil, .nil⟩
  | cons c cs ih =>
    obtain ⟨rest, hcs, hplain, hrest, hworded⟩ := ih
    have hclose := worded_close hplain hrest hworded
    rw [hcs] at hclose
    rw [cut]
    by_cases hblank : isBlank c = true
    · rw [if_pos hblank]
      exact ⟨c :: cs, rfl, by simp [Plain], startsApart_cons.mpr (.inl hblank), .blank hblank hclose⟩
    · rw [if_neg hblank]
      by_cases hsplitting : isSplitting c = true
      · rw [if_pos hsplitting]
        exact ⟨c :: cs, rfl, by simp [Plain], startsApart_cons.mpr (.inr hsplitting),
          .mark hsplitting hclose⟩
      · rw [if_neg hsplitting]
        refine ⟨rest, by rw [List.cons_append, hcs], ?_, hrest, hworded⟩
        exact List.forall_mem_cons.mpr ⟨by simpa using And.intro hblank hsplitting, hplain⟩

/-- Splitting finds the words of a text. -/
theorem worded_splitChars (cs : List Char) : Worded cs (splitChars cs) := by
  obtain ⟨rest, hcs, hplain, hrest, hworded⟩ := exists_rest_of_cut cs
  have hclose := worded_close hplain hrest hworded
  rwa [hcs] at hclose

/-- A text has no other words. -/
theorem Worded.eq_splitChars {cs : List Char} {ws : List (List Char)} (h : Worded cs ws) :
    ws = splitChars cs := by
  induction h with
  | nil => rfl
  | blank hc _ ih => rw [splitChars_cons_of_isBlank hc, ih]
  | mark hc _ ih => rw [splitChars_cons_of_isSplitting hc, ih]
  | run hw hrest _ ih => rw [splitChars_append _ hrest, splitChars_of_isRun hw, ih]; rfl

theorem worded_iff {cs : List Char} {ws : List (List Char)} :
    Worded cs ws ↔ ws = splitChars cs := by
  refine ⟨Worded.eq_splitChars, ?_⟩
  rintro rfl
  exact worded_splitChars cs

theorem Worded.isMark_or_isRun {cs : List Char} {ws : List (List Char)} (h : Worded cs ws) :
    ∀ w ∈ ws, IsMark w ∨ IsRun w := by
  induction h with
  | nil => simp
  | blank _ _ ih => exact ih
  | mark hc _ ih => exact List.forall_mem_cons.mpr ⟨.inl ⟨_, rfl, hc⟩, ih⟩
  | run hw _ _ ih => exact List.forall_mem_cons.mpr ⟨.inr hw, ih⟩

/-- A word stands behind the text of the words before it and in front of the text of those behind
it, which does not go on inside a run. -/
theorem Worded.exists_place {cs w : List Char} {front back : List (List Char)}
    (h : Worded cs (front ++ w :: back)) : ∃ before rest, cs = before ++ (w ++ rest) ∧
      Worded before front ∧ Worded rest back ∧ (IsRun w → StartsApart rest) := by
  -- The word is reached where the words in front of it are used up; what was passed stands before it.
  generalize hws : front ++ w :: back = ws at h
  induction h generalizing front with
  | nil => simp at hws
  | @blank c rest ws hc _ ih =>
    obtain ⟨before, behind, rfl, hbefore, hbehind⟩ := ih hws
    exact ⟨c :: before, behind, rfl, .blank hc hbefore, hbehind⟩
  | @mark c rest ws hc hrest ih =>
    cases front with
    | nil =>
      obtain ⟨rfl, rfl⟩ := List.cons.inj hws
      exact ⟨[], rest, rfl, .nil, hrest, fun hrun => absurd ⟨c, rfl, hc⟩ (not_isMark_of_isRun hrun)⟩
    | cons v front =>
      obtain ⟨rfl, htail⟩ := List.cons.inj hws
      obtain ⟨before, behind, rfl, hbefore, hbehind⟩ := ih htail
      exact ⟨c :: before, behind, rfl, .mark hc hbefore, hbehind⟩
  | @run v rest ws hv happart hrest ih =>
    cases front with
    | nil =>
      obtain ⟨rfl, rfl⟩ := List.cons.inj hws
      exact ⟨[], rest, rfl, .nil, hrest, fun _ => happart⟩
    | cons u front =>
      obtain ⟨rfl, htail⟩ := List.cons.inj hws
      obtain ⟨before, behind, rfl, hbefore, hbehind⟩ := ih htail
      exact ⟨u ++ before, behind, (List.append_assoc ..).symm, .run hv happart.left hbefore, hbehind⟩

/-- A text without words is white space. -/
theorem Worded.all_isBlank {cs : List Char} (h : Worded cs []) : cs.all isBlank = true := by
  generalize hws : ([] : List (List Char)) = ws at h
  induction h with
  | nil => rfl
  | blank hc _ ih => rw [List.all_cons, hc, ih hws, Bool.true_and]
  | mark | run => cases hws

/-- Between two runs that follow each other there is white space and nothing else. -/
theorem exists_gap_of_worded {cs v w : List Char} {front back : List (List Char)}
    (h : Worded cs (front ++ v :: w :: back)) (hv : IsRun v) (hw : IsRun w) :
    ∃ before gap behind, cs = before ++ v ++ gap ++ w ++ behind ∧ gap.all isBlank = true ∧
      gap ≠ [] ∧ Worded before front ∧ Worded behind back := by
  obtain ⟨before, rest, rfl, hbefore, hrest, happart⟩ := h.exists_place
  rw [← List.nil_append (w :: back)] at hrest
  obtain ⟨gap, behind, rfl, hgap, hbehind, -⟩ := hrest.exists_place
  refine ⟨before, gap, behind, by simp, hgap.all_isBlank, ?_, hbefore, hbehind⟩
  rintro rfl
  exact not_startsApart_of_isRun hw behind (happart hv)

/-! ### Words as texts -/

theorem map_toList_splitWords (s : String) :
    (splitWords s).map String.toList = splitChars s.toList := by
  rw [splitWords, List.map_map]
  simp [Function.comp_def]

/-- The words of a text put together are the text without its white space. -/
theorem join_splitWords (s : String) :
    String.join (splitWords s) = String.ofList (s.toList.filter fun c => !isBlank c) := by
  rw [← String.toList_inj, String.toList_join, List.flatMap_def, map_toList_splitWords,
    flatten_splitChars, String.toList_ofList]

theorem worded_toList_iff {s : String} {ws : List String} :
    Worded s.toList (ws.map String.toList) ↔ ws = splitWords s := by
  rw [worded_iff, ← map_toList_splitWords]
  exact (List.map_injective_iff.mpr fun _ _ => String.toList_inj.mp).eq_iff

theorem worded_splitWords (s : String) : Worded s.toList ((splitWords s).map String.toList) :=
  worded_toList_iff.mpr rfl

theorem splitWords_eq_of_worded {cs : List Char} {ws : List String}
    (h : Worded cs (ws.map String.toList)) : splitWords (String.ofList cs) = ws :=
  (worded_toList_iff.mp (by rwa [String.toList_ofList])).symm

/-- A word is a splitting character or a run. -/
theorem isMark_or_isRun_of_mem {s w : String} (h : w ∈ splitWords s) :
    IsMark w.toList ∨ IsRun w.toList :=
  (worded_splitWords s).isMark_or_isRun _ (List.mem_map_of_mem h)

theorem ne_empty_of_mem_splitWords {s w : String} (h : w ∈ splitWords s) : w ≠ "" := by
  rintro rfl
  rcases isMark_or_isRun_of_mem h with ⟨c, hc, -⟩ | hrun
  · cases hc
  · exact hrun.1 rfl

/-- A word is not split any further. -/
theorem splitWords_of_mem {s w : String} (h : w ∈ splitWords s) : splitWords w = [w] := by
  have hchars : splitChars w.toList = [w.toList] :=
    (isMark_or_isRun_of_mem h).elim splitChars_of_isMark splitChars_of_isRun
  rw [splitWords, hchars, List.map_singleton, String.ofList_toList]

/-- Between two runs that follow each other there is white space and nothing else. -/
theorem exists_gap_of_splitWords {s v w : String} {front back : List String}
    (h : splitWords s = front ++ v :: w :: back) (hv : IsRun v.toList) (hw : IsRun w.toList) :
    ∃ before gap behind, s = before ++ v ++ gap ++ w ++ behind ∧ isBlankText gap = true ∧
      gap ≠ "" ∧ splitWords before = front ∧ splitWords behind = back := by
  have hworded := worded_splitWords s
  rw [h, List.map_append, List.map_cons, List.map_cons] at hworded
  obtain ⟨before, gap, behind, hs, hblank, hne, hbefore, hbehind⟩ :=
    exists_gap_of_worded hworded hv hw
  refine ⟨String.ofList before, String.ofList gap, String.ofList behind, ?_, ?_, ?_,
    splitWords_eq_of_worded hbefore, splitWords_eq_of_worded hbehind⟩
  · rw [← String.toList_inj, hs]
    simp
  · rwa [isBlankText, String.toList_ofList]
  · rwa [Ne, ← String.toList_eq_nil_iff, String.toList_ofList]

end ShallowTransfer.Text
