import Mathlib.Data.List.TakeWhile
import ShallowTransfer.Build.Lines
import ShallowTransfer.Proofs.Traversal

/-!
The lines of a text, one after another (`textLines`): a text is empty, or a last line without an
end, or a line with its end and a text behind it (`lines_induction`). The entries of a text are its
lines but for comments and blank ones. Work on all entries is refused for the first one that has a
fault, with the number of its line among all lines (`RefusedFor.mapM_eq_error_iff`), and it is done
if no entry has one (`RefusedFor.exists_mapM_iff`).
-/

namespace ShallowTransfer.Build

/-! ### Separators -/

theorem splitAt_eq_splitOn (separator : Char) : ∀ cs, splitAt separator cs = cs.splitOn separator
  | [] => rfl
  | c :: rest => by
    rw [splitAt, splitAt_eq_splitOn separator rest, List.splitOn_cons_eq_if_modifyHead]
    by_cases h : c = separator
    · simp [h]
    · cases hrest : rest.splitOn separator with
      | nil => exact absurd hrest (List.splitOn_ne_nil _ _)
      | cons part parts => simp [h]

theorem dropLastEmpty_cons {parts : List (List Char)} (h : parts ≠ []) (part : List Char) :
    dropLastEmpty (part :: parts) = part :: dropLastEmpty parts := by
  cases parts with
  | nil => exact absurd rfl h
  | cons _ _ => rfl

/-! ### Lines -/

/-- The lines of a text without their ends. -/
def textLines (cs : List Char) : List (List Char) :=
  (dropLastEmpty (splitAt '\n' cs)).map dropReturns

theorem textLines_nil : textLines [] = [] :=
  rfl

/-- The last line may have no end. -/
theorem textLines_last {line : List Char} (h : '\n' ∉ line) (hne : line ≠ []) :
    textLines line = [dropReturns line] := by
  rw [textLines, splitAt_eq_splitOn, List.splitOn_eq_singleton h]
  simp [dropLastEmpty, hne]

/-- A line with its end, and the text behind it. -/
theorem textLines_next {line : List Char} (h : '\n' ∉ line) (rest : List Char) :
    textLines (line ++ '\n' :: rest) = dropReturns line :: textLines rest := by
  rw [textLines, splitAt_eq_splitOn, List.splitOn_append_cons_self_of_not_mem h,
    dropLastEmpty_cons (List.splitOn_ne_nil _ _), List.map_cons, ← splitAt_eq_splitOn, textLines]

/-- What holds of the empty text and of a last line without an end, and of a text with one more line
in front if it holds of the text, holds of all texts. -/
@[elab_as_elim]
theorem lines_induction {P : List Char → Prop} (nil : P [])
    (last : ∀ line, '\n' ∉ line → line ≠ [] → P line)
    (next : ∀ line rest, '\n' ∉ line → P rest → P (line ++ '\n' :: rest)) (cs : List Char) :
    P cs := by
  by_cases hend : '\n' ∈ cs
  · obtain ⟨line, rest, hcs, hline⟩ := List.eq_append_cons_of_mem hend
    rw [hcs]
    exact next line rest hline (lines_induction nil last next rest)
  · by_cases hne : cs = []
    · exact hne ▸ nil
    · exact last cs hend hne
termination_by cs.length
decreasing_by
  rw [hcs, List.length_append, List.length_cons]
  omega

theorem numberFrom_append (n : Nat) (front back : List (List Char)) :
    numberFrom n (front ++ back) = numberFrom n front ++ numberFrom (n + front.length) back := by
  induction front generalizing n with
  | nil => rfl
  | cons line front ih =>
    simp only [List.cons_append, numberFrom, ih, List.length_cons]
    rw [Nat.add_assoc, Nat.add_comm 1]

theorem map_chars_numberFrom (n : Nat) (ls : List (List Char)) :
    (numberFrom n ls).map Line.chars = ls := by
  induction ls generalizing n with
  | nil => rfl
  | cons line ls ih => simp [numberFrom, ih]

theorem forall_mem_numberFrom_iff {P : List Char → Prop} {n : Nat} {ls : List (List Char)} :
    (∀ l ∈ numberFrom n ls, P l.chars) ↔ ∀ line ∈ ls, P line := by
  rw [← List.forall_mem_map, map_chars_numberFrom]

/-- A line among numbered lines has the number that the lines before it leave to it. -/
theorem numberFrom_eq_append_cons_iff {n : Nat} {ls : List (List Char)} {front back : List Line}
    {l : Line} : numberFrom n ls = front ++ l :: back ↔
      ∃ before line after, ls = before ++ line :: after ∧ front = numberFrom n before ∧
        l = ⟨n + before.length, line⟩ ∧ back = numberFrom (n + before.length + 1) after := by
  constructor
  · intro h
    have hls : ls = front.map Line.chars ++ l.chars :: back.map Line.chars := by
      rw [← map_chars_numberFrom n ls, h, List.map_append, List.map_cons]
    rw [hls, numberFrom_append, numberFrom] at h
    have hlength : (numberFrom n (front.map Line.chars)).length = front.length := by
      rw [← List.length_map Line.chars, map_chars_numberFrom, List.length_map]
    obtain ⟨hfront, hbehind⟩ := List.append_inj h hlength
    obtain ⟨hl, hback⟩ := List.cons.inj hbehind
    exact ⟨_, _, _, hls, hfront.symm, hl.symm, hback.symm⟩
  · rintro ⟨before, line, after, rfl, rfl, rfl, rfl⟩
    rw [numberFrom_append, numberFrom]

/-- The lines that are no comments, numbered from some number on. -/
def keptFrom (n : Nat) (ls : List (List Char)) : List Line :=
  (numberFrom n ls).filter fun l => !isComment l.chars

theorem lines_eq (text : String) : lines text = keptFrom 1 (textLines text.toList) :=
  rfl

theorem keptFrom_append (n : Nat) (front back : List (List Char)) :
    keptFrom n (front ++ back) = keptFrom n front ++ keptFrom (n + front.length) back := by
  rw [keptFrom, numberFrom_append, List.filter_append, keptFrom, keptFrom]

theorem keptFrom_cons (n : Nat) (line : List Char) (ls : List (List Char)) :
    keptFrom n (line :: ls) =
      if isComment line then keptFrom (n + 1) ls else ⟨n, line⟩ :: keptFrom (n + 1) ls := by
  cases h : isComment line <;> simp [keptFrom, numberFrom, h]

/-! ### Entries -/

/-- Whether a line is neither a comment nor blank. -/
def isEntry (line : List Char) : Bool :=
  !isComment line && !line.all Text.isBlank

/-- A blank line is no comment. -/
theorem isComment_of_all {line : List Char} (h : line.all Text.isBlank = true) :
    isComment line = false := by
  have hnone : line.dropWhile Text.isBlank = [] :=
    List.dropWhile_eq_nil_iff.mpr (List.all_eq_true.mp h)
  simp [isComment, hnone]

/-- The entries of a text, with the numbers of their lines. -/
def entryLines (text : String) : List Line :=
  (lines text).filter fun l => !l.isBlank

theorem entryLines_eq (text : String) :
    entryLines text =
      (numberFrom 1 (textLines text.toList)).filter fun l => isEntry l.chars := by
  rw [entryLines, lines_eq, keptFrom, List.filter_filter]
  refine List.filter_congr fun l _ => ?_
  rw [Line.isBlank, isEntry, Bool.and_comm]

theorem map_chars_entryLines (text : String) :
    (entryLines text).map Line.chars = (textLines text.toList).filter isEntry := by
  have hfilter := List.filter_map (f := Line.chars) (p := isEntry)
    (l := numberFrom 1 (textLines text.toList))
  rw [map_chars_numberFrom] at hfilter
  rw [entryLines_eq, hfilter]
  rfl

/-! ### The first fault -/

/-- The first result among the chosen elements of a list. -/
theorem findSome?_filter_eq_some_iff {α β : Type} {p : α → Bool} {f : α → Option β} {b : β}
    {xs : List α} : (xs.filter p).findSome? f = some b ↔
      ∃ front x back, xs = front ++ x :: back ∧ p x = true ∧ f x = some b ∧
        ∀ y ∈ front, p y = true → f y = none := by
  have hguard : (xs.filter p).findSome? f = xs.findSome? fun x => if p x then f x else none := by
    induction xs with
    | nil => rfl
    | cons x xs ih =>
      rw [List.findSome?_cons, ← ih, List.filter_cons]
      split <;> rfl
  rw [hguard, List.findSome?_eq_some_iff]
  simp [and_assoc]

/-- The first entry that has a fault is the line with the number `n`, and `m` tells its fault. -/
def FirstFault (Fault : List Char → String → Prop) (ls : List (List Char)) (n : Nat) (m : String) :
    Prop :=
  ∃ before line after, ls = before ++ line :: after ∧ n = before.length + 1 ∧
    isEntry line = true ∧ Fault line m ∧ ∀ l ∈ before, isEntry l = true → ∀ m', ¬ Fault l m'

variable {Fault : List Char → String → Prop}

section Work

variable {α : Type} {path : String} {work : Line → Except Error α}

/-- Work on a line is refused exactly for the faults of the line, and the error tells which. -/
def RefusedFor (Fault : List Char → String → Prop) (path : String) (work : Line → Except Error α) :
    Prop :=
  ∀ l e, work l = .error e ↔ ∃ m, Fault l.chars m ∧ e = l.error path m

/-- Work on a line is done exactly if the line has no fault. -/
theorem RefusedFor.exists_iff (h : RefusedFor Fault path work) (l : Line) :
    (∃ a, work l = .ok a) ↔ ∀ m, ¬ Fault l.chars m := by
  constructor
  · rintro ⟨a, ha⟩ m hm
    rw [(h l _).mpr ⟨m, hm, rfl⟩] at ha
    cases ha
  · intro hnone
    cases hl : work l with
    | error e =>
      obtain ⟨m, hm, -⟩ := (h l e).mp hl
      exact absurd hm (hnone m)
    | ok a => exact ⟨a, rfl⟩

/-- Work on the entries of a text is refused for the first fault, with the number of its line. -/
theorem RefusedFor.mapM_eq_error_iff (h : RefusedFor Fault path work) (text : String) (e : Error) :
    (entryLines text).mapM work = .error e ↔
      ∃ n m, FirstFault Fault (textLines text.toList) n m ∧ e = .parse path n m := by
  rw [← error?_eq_some_iff, error?_mapM, entryLines_eq, findSome?_filter_eq_some_iff]
  simp only [error?_eq_some_iff, error?_eq_none_iff, h.exists_iff]
  constructor
  · -- Numbered lines that fall apart are those of a text that falls apart at the same place.
    rintro ⟨front, l, back, hlines, hentry, herror, hfront⟩
    obtain ⟨before, line, after, htext, rfl, rfl, -⟩ := numberFrom_eq_append_cons_iff.mp hlines
    obtain ⟨m, hm, rfl⟩ := (h _ e).mp herror
    refine ⟨_, m, ⟨before, line, after, htext, Nat.add_comm _ _, hentry, hm, ?_⟩, rfl⟩
    exact (forall_mem_numberFrom_iff (P := fun l => isEntry l = true → ∀ m', ¬ Fault l m')).mp hfront
  · rintro ⟨_, m, ⟨before, line, after, htext, rfl, hentry, hm, hbefore⟩, rfl⟩
    refine ⟨_, _, _, numberFrom_eq_append_cons_iff.mpr ⟨before, line, after, htext, rfl, rfl, rfl⟩,
      hentry, (h _ _).mpr ⟨m, hm, ?_⟩, forall_mem_numberFrom_iff.mpr hbefore⟩
    rw [Line.error, Nat.add_comm]

/-- Work on the entries of a text is done exactly if none of them has a fault. -/
theorem RefusedFor.exists_mapM_iff (h : RefusedFor Fault path work) (text : String) :
    (∃ results, (entryLines text).mapM work = .ok results) ↔
      ∀ line ∈ textLines text.toList, isEntry line = true → ∀ m, ¬ Fault line m := by
  rw [← error?_eq_none_iff, error?_mapM, List.findSome?_eq_none_iff]
  simp only [error?_eq_none_iff, h.exists_iff]
  rw [← List.forall_mem_map (P := fun line => ∀ m, ¬ Fault line m), map_chars_entryLines]
  simp only [List.mem_filter, and_imp]

end Work

end ShallowTransfer.Build
