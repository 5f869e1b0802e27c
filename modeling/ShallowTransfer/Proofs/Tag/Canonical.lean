import Mathlib.Data.Finset.Card
import ShallowTransfer.Proofs.Tag.Loading

/-!
The tag set that tags make. Of the tags only the set of their trimmed names counts, without the
empty name and that of the fallback tag (`otherNames`): they are numbered from one in ascending
order, behind the fallback tag (`build_canonical`). When they are too many for their numbers, a name
is kept exactly if fewer than 65536 others come behind it (`mem_assemble_iff`).
-/

namespace ShallowTransfer

namespace TagSet

/-! ### The other names -/

/-- The names that tags give besides that of the fallback tag: trimmed, and not empty. -/
def otherNames (tags : List Tag) (fallback : Tag) : Finset Tag :=
  (tags.map Text.trim).toFinset.filter fun t => t ≠ "" ∧ t ≠ Text.trim fallback

/-- The other names in ascending order. -/
def ordered (tags : List Tag) (fallback : Tag) : List Tag :=
  ascendingTexts ((tags.map Text.trim).filter fun t => !t.isEmpty && t ≠ Text.trim fallback)

section Names

variable {tags : List Tag} {fallback t : Tag}

theorem mem_otherNames : t ∈ otherNames tags fallback ↔
    (∃ tag ∈ tags, Text.trim tag = t) ∧ t ≠ "" ∧ t ≠ Text.trim fallback := by
  rw [otherNames, Finset.mem_filter, List.mem_toFinset, List.mem_map]

theorem mem_ordered : t ∈ ordered tags fallback ↔ t ∈ otherNames tags fallback := by
  simp [ordered, mem_ascendingTexts, otherNames]

theorem pairwise_ordered (tags : List Tag) (fallback : Tag) :
    (ordered tags fallback).Pairwise fun t u => textBefore t u = true :=
  pairwise_ascendingTexts _

theorem nodup_ordered (tags : List Tag) (fallback : Tag) : (ordered tags fallback).Nodup :=
  nodup_ascendingTexts _

theorem toFinset_ordered (tags : List Tag) (fallback : Tag) :
    (ordered tags fallback).toFinset = otherNames tags fallback := by
  ext t
  rw [List.mem_toFinset, mem_ordered]

theorem length_ordered (tags : List Tag) (fallback : Tag) :
    (ordered tags fallback).length = (otherNames tags fallback).card := by
  rw [← toFinset_ordered, List.toFinset_card_of_nodup (nodup_ordered tags fallback)]

/-- Nothing but the set of the other names counts. -/
theorem ordered_congr {tags' : List Tag} {fallback' : Tag}
    (h : otherNames tags' fallback' = otherNames tags fallback) :
    ordered tags' fallback' = ordered tags fallback := by
  refine ascendingTexts_congr fun t => ?_
  have ht : t ∈ ordered tags' fallback' ↔ t ∈ ordered tags fallback := by
    rw [mem_ordered, mem_ordered, h]
  rwa [ordered, ordered, mem_ascendingTexts, mem_ascendingTexts] at ht

/-- No name is there twice, and the fallback tag is none of the others. -/
theorem nodup_fallback_ordered (tags : List Tag) (fallback : Tag) :
    (Text.trim fallback :: ordered tags fallback).Nodup := by
  refine List.nodup_cons.mpr ⟨fun h => ?_, nodup_ordered tags fallback⟩
  exact (mem_otherNames.mp (mem_ordered.mp h)).2.2 rfl

/-- The tag set of tags: the fallback tag and behind it the other names in ascending order. -/
def assemble (tags : List Tag) (fallback : Tag) : TagSet :=
  number (Text.trim fallback :: ordered tags fallback)

/-- A tag set is made of any tags, unless the fallback tag is blank. -/
theorem build_eq (tags : List Tag) (h : Text.isBlankText fallback = false) :
    build tags fallback = .ok (assemble tags fallback) := by
  have hne : ¬(Text.trim fallback).isEmpty = true := by
    rw [String.isEmpty_iff, Text.trim_eq_empty_iff, h]
    exact Bool.false_ne_true
  rw [build, if_neg hne]
  rfl

/-- No tag set has a blank fallback tag. -/
theorem build_of_isBlankText (tags : List Tag) (h : Text.isBlankText fallback = true) :
    build tags fallback = .error .emptyFallbackTag := by
  rw [build, Text.trim_eq_empty_iff.mpr h]
  rfl

/-- Where all names have their own numbers, they are numbered as they come. -/
theorem assemble_of_card_lt (h : (otherNames tags fallback).card < tagIdCount) :
    assemble tags fallback = ⟨Text.trim fallback :: ordered tags fallback⟩ := by
  rw [assemble, number_of_length_le]
  rw [List.length_cons, length_ordered]
  exact h

/-- A tag set has the fallback tag alone if and only if there are no other names. -/
theorem length_assemble_lt_two_iff :
    (assemble tags fallback).names.length < 2 ↔ otherNames tags fallback = ∅ := by
  rw [assemble, number, length_foldl_assign, List.length_take, List.length_cons, length_ordered,
    ← Finset.card_eq_zero, tagIdCount]
  omega

/-- The tag set of tags, among which there must be one other than the fallback tag. -/
theorem ofTags_eq (tags : List Tag) (h : Text.isBlankText fallback = false) :
    ofTags tags fallback =
      if otherNames tags fallback = ∅ then .error .emptyTagSet
      else .ok (assemble tags fallback) := by
  rw [ofTags, build_eq tags h]
  simp only [bind, Except.bind, length_assemble_lt_two_iff]

theorem ofTags_of_isBlankText (tags : List Tag) (h : Text.isBlankText fallback = true) :
    ofTags tags fallback = .error .emptyFallbackTag := by
  rw [ofTags, build_of_isBlankText tags h]
  rfl

/-! ### The canonical numbering -/

/-- The number of a name stands for that name, and for no other one. -/
theorem Numbered.id?_eq_some_iff {s : TagSet} (h : s.Numbered) {name : Tag} {id : TagId} :
    s.id? name = some id ↔ s.name? id = some name :=
  ⟨name?_of_id? h, id?_of_name? h⟩

/-- As long as all other names have their own numbers, the tag set of some tags has the trimmed
fallback tag as number zero and the other names in ascending order from number one on; names and
numbers determine each other, and the tag set lists them by number. Other tags with the same other
names, and the same fallback tag but for white space, make the same tag set. A tag set that must
have a tag besides the fallback tag is refused exactly if there is no other name. -/
theorem build_canonical {tags : List Tag} {fallback : Tag}
    (hfallback : Text.isBlankText fallback = false)
    (hcard : (otherNames tags fallback).card < tagIdCount) :
    ∃ s rest, build tags fallback = .ok s ∧
      s.Faithful (Text.trim fallback :: rest) ∧
      (∀ t, t ∈ rest ↔ t ∈ otherNames tags fallback) ∧
      (rest.Pairwise fun t u => textBefore t u = true) ∧
      (∀ name id, s.id? name = some id ↔ s.name? id = some name) ∧
      (∀ tags' fallback', Text.trim fallback' = Text.trim fallback →
        otherNames tags' fallback' = otherNames tags fallback → build tags' fallback' = .ok s) ∧
      ofTags tags fallback =
        if otherNames tags fallback = ∅ then .error .emptyTagSet else .ok s := by
  have hbuild := build_eq tags hfallback
  have hnumbered := numbered_of_build hbuild
  have hfaithful : (assemble tags fallback).Faithful
      (Text.trim fallback :: ordered tags fallback) := by
    have hown := hnumbered.faithful
    rwa [assemble_of_card_lt hcard] at hown ⊢
  refine ⟨_, ordered tags fallback, hbuild, hfaithful, fun _ => mem_ordered,
    pairwise_ordered tags fallback, fun _ _ => hnumbered.id?_eq_some_iff, ?_, ?_⟩
  · intro tags' fallback' htrim hothers
    have hfallback' : Text.isBlankText fallback' = false := by
      rw [← Bool.not_eq_true, ← Text.trim_eq_empty_iff, htrim, Text.trim_eq_empty_iff, hfallback]
      exact Bool.false_ne_true
    rw [build_eq tags' hfallback', assemble, htrim, ordered_congr hothers, assemble]
  · exact ofTags_eq tags hfallback

/-- Padded, repeated and empty names, and the fallback tag among them. -/
theorem build_canonical_padded :
    Text.isBlankText " UNK" = false ∧
      (otherNames ["v ", "n", "", " n", "UNK"] " UNK").card < tagIdCount ∧
      build ["v ", "n", "", " n", "UNK"] " UNK" = .ok ⟨["UNK", "n", "v"]⟩ ∧
      build ["n", "v"] "UNK\t" = .ok ⟨["UNK", "n", "v"]⟩ := by
  have hfallback : Text.isBlankText " UNK" = false := by decide
  have hcard : (otherNames ["v ", "n", "", " n", "UNK"] " UNK").card < tagIdCount := by
    decide
  have hbuild : build ["v ", "n", "", " n", "UNK"] " UNK" = .ok ⟨["UNK", "n", "v"]⟩ := by
    decide
  obtain ⟨s, _, hs, -, -, -, -, hcongr, -⟩ := build_canonical hfallback hcard
  have hsame : s = ⟨["UNK", "n", "v"]⟩ := Except.ok.inj (hs.symm.trans hbuild)
  refine ⟨hfallback, hcard, hbuild, ?_⟩
  exact hsame ▸ hcongr ["n", "v"] "UNK\t" (by decide) (by decide)

/-! ### More names than numbers -/

/-- The other names behind a name: all of them behind the fallback tag. -/
def behind (tags : List Tag) (fallback tag : Tag) : Finset Tag :=
  (otherNames tags fallback).filter fun t => tag = Text.trim fallback ∨ textBefore tag t = true

/-- What is dropped from a list of different elements is told by its place. -/
theorem mem_drop_append_cons_iff {α : Type} {xs ys : List α} {x : α} {k : Nat}
    (hn : (xs ++ x :: ys).Nodup) : x ∈ (xs ++ x :: ys).drop k ↔ k ≤ xs.length := by
  constructor
  · intro h
    by_contra hlt
    have hdrop : (xs ++ x :: ys).drop k = ys.drop (k - (xs.length + 1)) := by
      rw [List.append_cons, List.drop_append, List.drop_of_length_le, List.nil_append,
        List.length_append, List.length_singleton]
      rw [List.length_append, List.length_singleton]
      omega
    rw [hdrop] at h
    exact (List.nodup_cons.mp hn.of_append_right).1 (List.mem_of_mem_drop h)
  · intro h
    rw [List.drop_append_of_le_length h]
    simp

/-- The names behind a name are those that follow it in ascending order. -/
theorem behind_eq_toFinset {tag : Tag} {front rest : List Tag}
    (h : Text.trim fallback :: ordered tags fallback = front ++ tag :: rest) :
    behind tags fallback tag = rest.toFinset := by
  have hn := nodup_fallback_ordered tags fallback
  ext t
  rw [behind, Finset.mem_filter, ← mem_ordered, List.mem_toFinset]
  rcases List.cons_eq_append_iff.mp h with ⟨rfl, hcons⟩ | ⟨front', rfl, hordered⟩
  · obtain ⟨htag, hrest⟩ := List.cons.inj hcons
    rw [htag, hrest]
    simp
  · have hne : tag ≠ Text.trim fallback := by
      rintro rfl
      exact (List.nodup_cons.mp hn).1 (hordered ▸ by simp)
    have hpairs := pairwise_ordered tags fallback
    rw [hordered, List.pairwise_append, List.pairwise_cons] at hpairs
    obtain ⟨-, ⟨hrest, -⟩, hfront⟩ := hpairs
    rw [hordered, List.mem_append, List.mem_cons, or_iff_right hne]
    constructor
    · rintro ⟨ht | rfl | ht, hbefore⟩
      · rw [textBefore_asymm (hfront t ht tag List.mem_cons_self)] at hbefore
        cases hbefore
      · rw [textBefore_irrefl] at hbefore
        cases hbefore
      · exact ht
    · exact fun ht => ⟨.inr (.inr ht), hrest t ht⟩

/-- The name of a tag is kept if and only if there are enough numbers for the names behind it. -/
theorem mem_assemble_iff {tag : Tag} :
    tag ∈ (assemble tags fallback).names ↔
      (tag = Text.trim fallback ∨ tag ∈ otherNames tags fallback) ∧
        (behind tags fallback tag).card < tagIdCount := by
  have hn := nodup_fallback_ordered tags fallback
  rw [assemble, mem_number_iff, ← mem_ordered, ← List.mem_cons]
  by_cases hmem : tag ∈ Text.trim fallback :: ordered tags fallback
  · obtain ⟨front, rest, hsplit⟩ := List.append_of_mem hmem
    have hrest : (behind tags fallback tag).card = rest.length := by
      rw [behind_eq_toFinset hsplit, List.toFinset_card_of_nodup]
      rw [hsplit] at hn
      exact (List.nodup_cons.mp hn.of_append_right).2
    rw [hrest, and_iff_right hmem, hsplit, mem_drop_append_cons_iff (hsplit ▸ hn),
      List.length_append, List.length_cons]
    omega
  · exact iff_of_false (fun h => hmem (List.mem_of_mem_drop h)) fun h => hmem h.1

/-- A tag as tag sets spell it: trimmed and not empty. -/
def Spelled (tag : Tag) : Prop :=
  Text.trim tag = tag ∧ tag ≠ ""

/-- A tag that the tag set of some tags knows as it is written: it is spelled as in the tag set, and
there are enough numbers for the names behind it. -/
structure Kept (tags : List Tag) (fallback tag : Tag) : Prop where
  spelled : Spelled tag
  numbered : (behind tags fallback tag).card < tagIdCount

/-- The tags that a tag set knows, of those it is made of. -/
theorem mem_assemble_iff_kept {tag : Tag} (hfallback : Text.isBlankText fallback = false)
    (hmem : tag ∈ tags) : tag ∈ (assemble tags fallback).names ↔ Kept tags fallback tag := by
  have hspelled : (tag = Text.trim fallback ∨ tag ∈ otherNames tags fallback) ↔ Spelled tag := by
    rw [mem_otherNames]
    constructor
    · rintro (rfl | ⟨⟨tag', -, rfl⟩, hne, -⟩)
      · refine ⟨Text.trim_trim fallback, fun hempty => ?_⟩
        rw [Text.trim_eq_empty_iff, hfallback] at hempty
        cases hempty
      · exact ⟨Text.trim_trim tag', hne⟩
    · rintro ⟨htrim, hne⟩
      by_cases htag : tag = Text.trim fallback
      · exact .inl htag
      · exact .inr ⟨⟨tag, hmem, htrim⟩, hne, htag⟩
  rw [mem_assemble_iff, hspelled]
  exact ⟨fun h => ⟨h.1, h.2⟩, fun h => ⟨h.spelled, h.numbered⟩⟩

end Names

end TagSet

end ShallowTransfer
