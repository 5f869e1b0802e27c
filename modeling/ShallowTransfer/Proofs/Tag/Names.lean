import ShallowTransfer.Proofs.Tag.Numbering
import ShallowTransfer.Proofs.Text.Trim
import ShallowTransfer.Proofs.Traversal

/-!
Tag sets by their names. The names of a tag set, in the order of their numbers, are read as this tag
set (`ofNames_names`), unless the first one is blank. This cannot be where the tags were trimmed,
nor where no tag took over the number of the first one (`Made.ofNames_eq_ok`).
-/

namespace ShallowTransfer

/-- A trimmed text that is not empty is not blank. -/
theorem Text.isBlankText_trim {s : String} (h : Text.trim s ≠ "") :
    Text.isBlankText (Text.trim s) = false := by
  have hlist : (Text.trim s).toList = Text.trimChars s.toList := String.toList_ofList
  have hstart := (Text.trimmed_trimChars s.toList).1
  rw [Text.isBlankText, hlist]
  cases hchars : Text.trimChars s.toList with
  | nil => exact absurd (String.toList_eq_nil_iff.mp (hlist.trans hchars)) h
  | cons c rest =>
    rw [hchars] at hstart
    rw [List.all_cons, hstart c rfl, Bool.false_and]

namespace TagSet

/-- The tag sets made of tags, and those read from no more names than there are numbers. -/
inductive Made : TagSet → Prop
  | ofBuild {tags : List Tag} {fallback : Tag} {s : TagSet} :
      build tags fallback = .ok s → Made s
  | ofTags {tags : List Tag} {fallback : Tag} {s : TagSet} :
      ofTags tags fallback = .ok s → Made s
  | ofNames {names : List Tag} {s : TagSet} : names.length ≤ tagIdCount →
      ofNames names = .ok s → Made s

/-- A tag set with further tags has the tags before and the further ones. -/
theorem mem_foldl_assign {t : Tag} :
    ∀ {entries : List (Tag × Nat)} {names : List Tag}, t ∈ entries.foldl assign names →
      t ∈ names ∨ ∃ e ∈ entries, t = e.1
  | [], _, h => .inl h
  | e :: rest, names, h => by
    rcases @mem_foldl_assign t rest _ h with h | ⟨e', he', heq⟩
    · exact (mem_assign h).imp id fun heq => ⟨e, List.mem_cons_self, heq⟩
    · exact .inr ⟨e', List.mem_cons_of_mem _ he', heq⟩

theorem mem_of_mem_number {names : List Tag} {t : Tag} (h : t ∈ (number names).names) :
    t ∈ names := by
  rcases mem_foldl_assign h with h | ⟨e, he, rfl⟩
  · exact List.mem_of_mem_take h
  · exact List.mem_of_mem_drop (List.fst_mem_of_mem_zipIdx he)

/-- Tags are trimmed, and empty ones are left out. -/
theorem isBlankText_of_build {tags : List Tag} {fallback : Tag} {s : TagSet}
    (h : build tags fallback = .ok s) : ∀ t ∈ s.names, Text.isBlankText t = false := by
  obtain ⟨hfirst, rfl⟩ := build_eq_ok h
  intro t ht
  rcases List.mem_cons.mp (mem_of_mem_number ht) with rfl | hothers
  · exact Text.isBlankText_trim hfirst
  · obtain ⟨htags, hne⟩ := List.mem_filter.mp (mem_ascendingTexts.mp hothers)
    obtain ⟨tag, -, rfl⟩ := List.mem_map.mp htags
    rw [Bool.and_eq_true, Bool.not_eq_true', String.isEmpty_eq_false_iff] at hne
    exact Text.isBlankText_trim hne.1

/-- The names of a tag set are read as this tag set. -/
theorem ofNames_names {s : TagSet} (h : s.Numbered)
    (hfirst : Text.isBlankText (s.names.headD "") = false) : ofNames s.names = .ok s := by
  have hnone : duplicate? (s.names.take tagIdCount) = none := by
    rw [duplicate?_eq_firstRepeated, List.take_of_length_le h.size_le]
    exact firstRepeated_eq_none _ _ h.nodup fun _ _ => List.not_mem_nil
  rw [ofNames, hfirst, hnone, List.drop_of_length_le h.size_le, List.take_of_length_le h.size_le]
  rfl

theorem ofNames_of_build {tags : List Tag} {fallback : Tag} {s : TagSet}
    (h : build tags fallback = .ok s) : TagSet.ofNames s.names = .ok s := by
  have hs := numbered_of_build h
  refine ofNames_names hs (isBlankText_of_build h _ ?_)
  rw [List.headD_eq_head?_getD, List.head?_eq_some_head hs.nonempty]
  exact List.head_mem hs.nonempty

/-- Names that all have their own number are kept. -/
theorem names_of_ofNames {names : List Tag} {s : TagSet} (hlength : names.length ≤ tagIdCount)
    (h : ofNames names = .ok s) : s.names = names := by
  simp only [ofNames, List.drop_of_length_le hlength, List.take_of_length_le hlength,
    List.zipIdx_nil, List.foldlM_nil] at h
  split at h
  · cases h
  · split at h
    · cases h
    · cases h
      rfl

/-- Stored names give back the tag set. -/
theorem Made.ofNames_eq_ok {s : TagSet} (h : s.Made) : TagSet.ofNames s.names = .ok s := by
  cases h with
  | ofBuild h => exact ofNames_of_build h
  | @ofTags tags fallback _ h =>
    obtain ⟨s', hb, h⟩ := bind_eq_ok_iff.mp h
    split at h
    · cases h
    · cases h
      exact ofNames_of_build hb
  | ofNames hlength h => rw [names_of_ofNames hlength h, h]

end TagSet

end ShallowTransfer
