import ShallowTransfer.Tag.Matcher

/-!
Tag sets: the tags a tagger may assign, numbered from zero. Number zero is the fallback tag for
unknown words; the other tags follow in ascending order of their names. Numbers have sixteen bits,
so a further tag takes over the number it has modulo 65536.
-/

namespace ShallowTransfer

/-- The number of a tag in its tag set. -/
abbrev TagId := UInt16

/-- How many tags can be told apart by their numbers. -/
def tagIdCount : Nat := 65536

/-- The tags by their numbers. -/
structure TagSet where
  names : List Tag
deriving Repr, DecidableEq

/-- Whether the first text comes before the second one in code point order. -/
def textBefore (s t : String) : Bool :=
  List.lex (s.toList.map Char.toNat) (t.toList.map Char.toNat) Nat.blt

/-- No list of numbers comes before itself. -/
theorem not_lex_self : ∀ ns : List Nat, List.lex ns ns Nat.blt = false
  | [] => rfl
  | n :: ns => by
    have h : Nat.blt n n = false := by rw [← Bool.not_eq_true, Nat.blt_eq]; exact Nat.lt_irrefl n
    rw [List.lex, h, not_lex_self ns, Bool.and_false, Bool.or_false]

/-- A list of numbers comes before all those that come after one behind it. -/
theorem lex_trans : ∀ ls ms ns : List Nat, List.lex ls ms Nat.blt = true →
    List.lex ms ns Nat.blt = true → List.lex ls ns Nat.blt = true
  | _, [], _, hl, _ => by rw [List.lex] at hl; cases hl
  | _, _ :: _, [], _, hm => by cases hm
  | [], _ :: _, _ :: _, _, _ => rfl
  | l :: ls, m :: ms, n :: ns, hl, hm => by
    rw [List.lex, Bool.or_eq_true, Bool.and_eq_true, Nat.blt_eq, beq_iff_eq] at hl hm ⊢
    rcases hl with hl | ⟨hl, hls⟩ <;> rcases hm with hm | ⟨hm, hms⟩
    · exact .inl (Nat.lt_trans hl hm)
    · exact .inl (hm ▸ hl)
    · exact .inl (hl ▸ hm)
    · exact .inr ⟨hl.trans hm, lex_trans ls ms ns hls hms⟩

/-- No text comes before itself. -/
theorem textBefore_irrefl (s : String) : textBefore s s = false :=
  not_lex_self _

/-- A text comes before all those that come after one behind it. -/
theorem textBefore_trans {s t u : String} (hs : textBefore s t = true)
    (ht : textBefore t u = true) : textBefore s u = true :=
  lex_trans _ _ _ hs ht

/-- Whether every text of a list comes before the next one. -/
def ascends : List String → Bool
  | s :: t :: rest => textBefore s t && ascends (t :: rest)
  | _ => true

/-- In an ascending list every text comes before all those behind it. -/
theorem pairwise_of_ascends :
    ∀ texts, ascends texts = true → texts.Pairwise fun s t => textBefore s t = true
  | [], _ => .nil
  | [_], _ => List.pairwise_singleton _ _
  | s :: t :: rest, h => by
    rw [ascends, Bool.and_eq_true] at h
    have ih := pairwise_of_ascends (t :: rest) h.2
    refine .cons (fun u hu => ?_) ih
    rcases List.mem_cons.mp hu with rfl | hr
    · exact h.1
    · exact textBefore_trans h.1 (List.rel_of_pairwise_cons ih hr)

/-- An ascending list holds no text twice. -/
theorem nodup_of_ascends {texts : List String} (h : ascends texts = true) : texts.Nodup := by
  refine (pairwise_of_ascends texts h).imp fun {s t} hst he => ?_
  rw [he, textBefore_irrefl] at hst
  cases hst

/-- The ascending list of texts with one more in its place, unless it is there. -/
def insertText (s : String) : List String → List String
  | [] => [s]
  | t :: ts =>
    if s = t then t :: ts else if textBefore s t then s :: t :: ts else t :: insertText s ts

/-- The texts of a list in ascending order, each one once. -/
def ascendingTexts (texts : List String) : List String :=
  texts.foldr insertText []

/-- The first element of a list that repeats one before it or one of those seen before. -/
def firstRepeated {α : Type} [DecidableEq α] : List α → List α → Option α
  | _, [] => none
  | seen, x :: xs => if seen.contains x then some x else firstRepeated (x :: seen) xs

/-- Elements that are all different, and different from those seen before, repeat none. -/
theorem firstRepeated_eq_none {α : Type} [DecidableEq α] :
    ∀ (seen xs : List α), xs.Nodup → (∀ x ∈ xs, x ∉ seen) → firstRepeated seen xs = none
  | _, [], _, _ => rfl
  | seen, x :: xs, hn, hs => by
    rw [List.nodup_cons] at hn
    have hx : ¬seen.contains x = true := by
      rw [List.contains_iff_mem]
      exact hs x List.mem_cons_self
    rw [firstRepeated, if_neg hx]
    refine firstRepeated_eq_none (x :: seen) xs hn.2 fun y hy hm => ?_
    rcases List.mem_cons.mp hm with rfl | hm
    · exact hn.1 hy
    · exact hs y (List.mem_cons_of_mem _ hy) hm

namespace TagSet

/-- Gives the number `i` modulo 65536 to a tag. -/
def assign (names : List Tag) (entry : Tag × Nat) : List Tag :=
  names.set (entry.2 % tagIdCount) entry.1

/-- Numbers tags from zero in the order of the list. -/
def number (names : List Tag) : TagSet :=
  ⟨((names.drop tagIdCount).zipIdx).foldl assign (names.take tagIdCount)⟩

/-- The tag set of the given tags, trimmed, with a fallback tag. It may hold the fallback alone. -/
def build (tags : List Tag) (fallback : Tag) : Except ConfigError TagSet :=
  let first := Text.trim fallback
  if first.isEmpty then .error .emptyFallbackTag
  else
    let others := (tags.map Text.trim).filter fun t => !t.isEmpty && t ≠ first
    .ok (number (first :: ascendingTexts others))

/-- The tag set of the given tags with a fallback tag. There must be a tag besides the fallback. -/
def ofTags (tags : List Tag) (fallback : Tag) : Except ConfigError TagSet := do
  let s ← build tags fallback
  if s.names.length < 2 then .error .emptyTagSet else .ok s

/-- The first tag of a list that an earlier one repeats. Sorting shows at once that there is none. -/
def duplicate? (tags : List Tag) : Option Tag :=
  if ascends (tags.mergeSort fun s t => !textBefore t s) then none else firstRepeated [] tags

/-- Sorting only makes the search shorter. -/
theorem duplicate?_eq_firstRepeated (tags : List Tag) :
    duplicate? tags = firstRepeated [] tags := by
  rw [duplicate?]
  split
  · next h =>
    have hn : tags.Nodup := (List.mergeSort_perm _ _).nodup_iff.mp (nodup_of_ascends h)
    exact (firstRepeated_eq_none [] tags hn fun t _ => List.not_mem_nil).symm
  · rfl

/-- Gives the number `i` modulo 65536 to a tag that has no number. -/
def assignNew (names : List Tag) (entry : Tag × Nat) : Except ConfigError (List Tag) :=
  if names.contains entry.1 then .error (.duplicateTag entry.1) else .ok (assign names entry)

/-- The tag set with exactly the given numbering. -/
def ofNames (names : List Tag) : Except ConfigError TagSet :=
  if Text.isBlankText (names.headD "") then .error .emptyFallbackTag
  else
    match duplicate? (names.take tagIdCount) with
    | some t => .error (.duplicateTag t)
    | none => do
      let numbered ← ((names.drop tagIdCount).zipIdx).foldlM assignNew (names.take tagIdCount)
      .ok ⟨numbered⟩

/-- The number of a tag. -/
def id? (s : TagSet) (name : Tag) : Option TagId :=
  (s.names.idxOf? name).map UInt16.ofNat

/-- The tag with a number. -/
def name? (s : TagSet) (id : TagId) : Option Tag :=
  s.names[id.toNat]?

/-- The number of the fallback tag. -/
def fallback : TagId := 0

/-- The tag for unknown words. -/
def fallbackName (s : TagSet) : Tag :=
  (s.name? fallback).getD ""

/-- The tag with a number, or the fallback tag. -/
def nameOrFallback (s : TagSet) (id : TagId) : Tag :=
  (s.name? id).getD s.fallbackName

/-- Whether a number belongs to a tag. -/
def contains (s : TagSet) (id : TagId) : Bool :=
  (s.name? id).isSome

/-- How many tags there are, with the fallback tag. -/
def size (s : TagSet) : Nat :=
  s.names.length

/-- The tags with their numbers, by number. -/
def toList (s : TagSet) : List (Tag × TagId) :=
  s.names.zipIdx.map fun e => (e.1, UInt16.ofNat e.2)

end TagSet

end ShallowTransfer
