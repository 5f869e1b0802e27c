import ShallowTransfer.Proofs.Build.Bilingual
import ShallowTransfer.Proofs.Build.Corpora

/-!
The layout of files. Carriage returns at the ends of lines change no line (`textLines_withReturns`).
A comment on a line of its own moves the lines behind it by one and changes nothing else
(`lines_of_withComment`), and readers look at the number of a line only to tell it. So a file is
read the same whatever the ends of its lines are, and with a comment more only the line that an
error names may be another one (`layout_irrelevant`).
-/

namespace ShallowTransfer.Build

/-! ### Carriage returns -/

/-- The text with a carriage return before each line feed. -/
def withReturns (cs : List Char) : List Char :=
  cs.flatMap fun c => if c = '\n' then ['\r', '\n'] else [c]

theorem withReturns_of_not_mem {line : List Char} (h : '\n' ∉ line) : withReturns line = line := by
  induction line with
  | nil => rfl
  | cons c line ih =>
    rw [List.mem_cons, not_or] at h
    have hrest : withReturns line = line := ih h.2
    rw [withReturns, List.flatMap_cons, if_neg (Ne.symm h.1), ← withReturns, hrest]
    rfl

theorem withReturns_next {line : List Char} (h : '\n' ∉ line) (rest : List Char) :
    withReturns (line ++ '\n' :: rest) = (line ++ ['\r']) ++ '\n' :: withReturns rest := by
  have hline := withReturns_of_not_mem h
  unfold withReturns at hline ⊢
  rw [List.flatMap_append, hline]
  simp

theorem dropReturns_concat (line : List Char) : dropReturns (line ++ ['\r']) = dropReturns line := by
  simp [dropReturns]

/-- Carriage returns before line feeds are no part of the lines. -/
theorem textLines_withReturns (cs : List Char) : textLines (withReturns cs) = textLines cs := by
  induction cs using lines_induction with
  | nil => rfl
  | last line hline _ => rw [withReturns_of_not_mem hline]
  | next line rest hline ih =>
    -- The return stands at the end of the line, where all returns are dropped.
    have hreturn : '\n' ∉ line ++ ['\r'] := by simpa using hline
    rw [withReturns_next hline, textLines_next hreturn, dropReturns_concat, ih,
      textLines_next hline]

/-! ### Starts of lines -/

/-- A line may start behind the text: it is empty or ends with a line feed. -/
def EndsLine (cs : List Char) : Prop :=
  cs = [] ∨ cs.getLast? = some '\n'

instance (cs : List Char) : Decidable (EndsLine cs) :=
  inferInstanceAs (Decidable (_ ∨ _))

/-- The text with an end of its last line. -/
def endLine (cs : List Char) : List Char :=
  if EndsLine cs then cs else cs ++ ['\n']

theorem endLine_last {line : List Char} (h : '\n' ∉ line) (hne : line ≠ []) :
    endLine line = line ++ ['\n'] := by
  refine if_neg ?_
  rintro (hnil | hlast)
  · exact hne hnil
  · exact h (List.mem_of_getLast? hlast)

theorem endLine_next (line rest : List Char) :
    endLine (line ++ '\n' :: rest) = line ++ '\n' :: endLine rest := by
  have hends : EndsLine (line ++ '\n' :: rest) ↔ EndsLine rest := by
    cases rest with
    | nil => simp [EndsLine]
    | cons c rest => simp [EndsLine, List.getLast?_cons_cons]
  by_cases h : EndsLine rest
  · rw [endLine, if_pos (hends.mpr h), endLine, if_pos h]
  · rw [endLine, if_neg (mt hends.mp h), endLine, if_neg h, List.append_assoc, List.cons_append]

/-- The lines of a text that goes on behind a whole line. -/
theorem textLines_endLine_append (cs rest : List Char) :
    textLines (endLine cs ++ rest) = textLines cs ++ textLines rest := by
  induction cs using lines_induction with
  | nil => rfl
  | last line hline hne =>
    rw [endLine_last hline hne, List.append_assoc, List.singleton_append, textLines_next hline,
      textLines_last hline hne, List.singleton_append]
  | next line more hline ih =>
    rw [endLine_next, List.append_assoc, List.cons_append, textLines_next hline, ih,
      textLines_next hline, List.cons_append]

theorem textLines_append {front : List Char} (h : EndsLine front) (back : List Char) :
    textLines (front ++ back) = textLines front ++ textLines back := by
  rw [← textLines_endLine_append, endLine, if_pos h]

/-! ### Comments -/

/-- A comment on a line of its own: white space, the mark of comments, and anything else but a line
feed. -/
def IsCommentLine (cs : List Char) : Prop :=
  '\n' ∉ cs ∧ ∃ blanks more, cs = blanks ++ '#' :: more ∧ ∀ c ∈ blanks, Text.isBlank c = true

/-- A text with a comment as one more line, and the number of this line: the comment is between two
lines or before the first one, or it is the last line, which may have no end. -/
inductive WithComment : List Char → Nat → List Char → Prop
  | between {front comment : List Char} (back : List Char) : EndsLine front →
      IsCommentLine comment →
      WithComment (front ++ back) ((textLines front).length + 1) (front ++ comment ++ '\n' :: back)
  | behind {comment lineEnd : List Char} (cs : List Char) : IsCommentLine comment →
      lineEnd = [] ∨ lineEnd = ['\n'] →
      WithComment cs ((textLines cs).length + 1) (endLine cs ++ comment ++ lineEnd)

/-- Only returns behind a character that is none are dropped. -/
theorem dropReturns_append_cons {c : Char} (hc : c ≠ '\r') (front back : List Char) :
    dropReturns (front ++ c :: back) = front ++ c :: dropReturns back := by
  unfold dropReturns
  rw [List.reverse_append, List.reverse_cons, List.append_assoc, List.dropWhile_append]
  split
  · next hnone =>
    rw [List.isEmpty_iff.mp hnone, List.singleton_append,
      List.dropWhile_cons_of_neg (by simpa using hc)]
    simp
  · simp

theorem IsCommentLine.isComment {cs : List Char} (h : IsCommentLine cs) :
    isComment (dropReturns cs) = true := by
  obtain ⟨-, blanks, more, rfl, hblanks⟩ := h
  have hmark : Text.isBlank '#' = false := by decide
  rw [dropReturns_append_cons (by decide), Build.isComment,
    List.dropWhile_append_of_pos hblanks, List.dropWhile_cons_of_neg (by simp [hmark])]
  rfl

theorem IsCommentLine.textLines {cs : List Char} (h : IsCommentLine cs) :
    textLines cs = [dropReturns cs] := by
  refine textLines_last h.1 ?_
  obtain ⟨-, blanks, more, rfl, -⟩ := h
  simp

/-- A comment is one more line. -/
theorem textLines_of_withComment {cs cs' : List Char} {n : Nat} (h : WithComment cs n cs') :
    ∃ before line after, isComment line = true ∧ n = before.length + 1 ∧
      textLines cs = before ++ after ∧ textLines cs' = before ++ line :: after := by
  cases h with
  | between back hfront hcomment =>
    refine ⟨_, _, _, hcomment.isComment, rfl, textLines_append hfront back, ?_⟩
    rw [List.append_assoc, textLines_append hfront, textLines_next hcomment.1]
  | behind cs hcomment hend =>
    refine ⟨_, _, [], hcomment.isComment, rfl, (List.append_nil _).symm, ?_⟩
    rw [List.append_assoc, textLines_endLine_append]
    rcases hend with rfl | rfl
    · rw [List.append_nil, hcomment.textLines]
    · rw [textLines_next hcomment.1, textLines_nil]

/-! ### Numbers of lines -/

/-- The number that a line has when one more line comes in with the number `n`. -/
def numberAfter (n number : Nat) : Nat :=
  if n ≤ number then number + 1 else number

/-- The line when one more line comes in with the number `n`. -/
def Line.moved (n : Nat) (l : Line) : Line :=
  { l with number := numberAfter n l.number }

/-- An error, when one more line comes in with the number `n`. -/
def errorAfter (n : Nat) : Error → Error
  | .parse path number message => .parse path (numberAfter n number) message
  | e => e

/-- Lines behind the new one are moved by one. -/
theorem keptFrom_succ {n k : Nat} (h : n ≤ k) (ls : List (List Char)) :
    keptFrom (k + 1) ls = (keptFrom k ls).map (Line.moved n) := by
  induction ls generalizing k with
  | nil => rfl
  | cons line ls ih =>
    rw [keptFrom_cons, keptFrom_cons, ih (Nat.le_succ_of_le h)]
    split
    · rfl
    · simp [Line.moved, numberAfter, h]

/-- Lines before the new one keep their numbers. -/
theorem map_moved_keptFrom {n k : Nat} (ls : List (List Char)) (h : k + ls.length ≤ n) :
    (keptFrom k ls).map (Line.moved n) = keptFrom k ls := by
  induction ls generalizing k with
  | nil => rfl
  | cons line ls ih =>
    rw [List.length_cons] at h
    have hkeeps : ¬ n ≤ k := by omega
    rw [keptFrom_cons]
    split
    · exact ih (by omega)
    · rw [List.map_cons, ih (by omega)]
      simp [Line.moved, numberAfter, hkeeps]

/-- A comment moves the lines behind it. -/
theorem lines_of_withComment {text text' : String} {n : Nat}
    (h : WithComment text.toList n text'.toList) : lines text' = (lines text).map (Line.moved n) := by
  obtain ⟨before, line, after, hcomment, rfl, htext, htext'⟩ := textLines_of_withComment h
  have hbefore : (keptFrom 1 before).map (Line.moved (before.length + 1)) = keptFrom 1 before :=
    map_moved_keptFrom before (by omega)
  have hafter : keptFrom (1 + before.length + 1) after =
      (keptFrom (1 + before.length) after).map (Line.moved (before.length + 1)) :=
    keptFrom_succ (by omega) after
  rw [lines_eq, lines_eq, htext, htext', keptFrom_append, keptFrom_append, keptFrom_cons,
    if_pos hcomment, List.map_append, hbefore, hafter]

/-! ### Moved lines are read as before -/

variable {n : Nat} {path : String}

theorem Line.pair_moved (l : Line) :
    (l.moved n).pair path = (l.pair path).mapError (errorAfter n) := by
  have hcolumns : (l.moved n).columns = l.columns := rfl
  unfold Line.pair
  rw [hcolumns]
  split
  · split <;> rfl
  · rfl

theorem Line.row_moved (l : Line) :
    (l.moved n).row path = (l.row path).mapError (errorAfter n) := by
  rcases rowOn_or_rowFault l.chars with ⟨r, hr⟩ | ⟨m, hm⟩
  · rw [Line.row_of_rowOn path hr, Line.row_of_rowOn (l := l.moved n) path hr]
    rfl
  · rw [Line.row_of_rowFault path hm, Line.row_of_rowFault (l := l.moved n) path hm]
    rfl

theorem filter_moved (ls : List Line) :
    ((ls.map (Line.moved n)).filter fun l => !l.isBlank) =
      (ls.filter fun l => !l.isBlank).map (Line.moved n) := by
  rw [List.filter_map]
  rfl

theorem sentencesOf_moved (ls : List Line) :
    sentencesOf path (ls.map (Line.moved n)) =
      (sentencesOf path ls).mapError (errorAfter n) := by
  induction ls with
  | nil => rfl
  | cons l ls ih =>
    have hblank : (l.moved n).isBlank = l.isBlank := rfl
    rw [List.map_cons, sentencesOf, sentencesOf, hblank, ih, Line.pair_moved]
    split
    · cases sentencesOf path ls <;> rfl
    · cases l.pair path with
      | error e => rfl
      | ok pair => cases sentencesOf path ls <;> rfl

/-- Carriage returns before the line feeds of a file change nothing. A comment on a line of its own,
wherever it is put, leaves what is read as it is, and an error names the same line, which has moved
by one if it is behind the comment. -/
theorem layout_irrelevant (path : String) (options : DictionaryOptions) :
    (∀ text text' : String, text'.toList = withReturns text.toList →
        parseCorpus text' path = parseCorpus text path ∧
        parseLexicon text' path = parseLexicon text path ∧
        parseDictionary text' path options = parseDictionary text path options) ∧
      ∀ (text : String) (n : Nat) (text' : String), WithComment text.toList n text'.toList →
        parseCorpus text' path = (parseCorpus text path).mapError (errorAfter n) ∧
        parseLexicon text' path = (parseLexicon text path).mapError (errorAfter n) ∧
        parseDictionary text' path options =
          (parseDictionary text path options).mapError (errorAfter n) := by
  refine ⟨fun text text' h => ?_, fun text n text' h => ?_⟩
  · have hlines : lines text' = lines text := by
      rw [lines_eq, lines_eq, h, textLines_withReturns]
    simp only [parseCorpus, parseLexicon, parseDictionary, hlines, and_self]
  · have hlines := lines_of_withComment h
    refine ⟨?_, ?_, ?_⟩
    · rw [parseCorpus_eq, parseCorpus_eq, hlines, sentencesOf_moved]
      cases sentencesOf path (lines text) <;> rfl
    · rw [parseLexicon, parseLexicon, hlines, filter_moved, mapM_map_mapError Line.pair_moved]
    · rw [parseDictionary, parseDictionary, hlines, filter_moved,
        mapM_map_mapError Line.row_moved]
      cases ((lines text).filter fun l => !l.isBlank).mapM (Line.row path) <;> rfl

end ShallowTransfer.Build
