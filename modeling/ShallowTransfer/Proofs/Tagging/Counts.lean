import ShallowTransfer.Proofs.OrderedMap
import ShallowTransfer.Proofs.Sorting
import ShallowTransfer.Tagging.Lexicon

/-!
Counting words and tags. The tables of counts are described by what they hold and not by the order
in which it came in: a tally has each thing that occurs once, with the number of its occurrences
(`Counts`), and the table of a corpus has each word once, with the tally of its tags (`Tallied`).
The most frequent tag is told by the counts alone (`MostFrequent.unique`), so every such table gives
the same one.
-/

namespace ShallowTransfer

namespace Lexicon

/-! ### Tallies -/

/-- A tally with the number of occurrences of everything in a list. -/
structure Counts {α : Type} [DecidableEq α] (t : Tally α) (xs : List α) : Prop where
  nodup : t.keys.Nodup
  mem_entries : ∀ a n, (a, n) ∈ t.entries ↔ a ∈ xs ∧ n = xs.count a

section Counts

variable {α : Type} [DecidableEq α] {t : Tally α} {xs ys : List α}

theorem counts_empty : Counts (OrderedMap.empty : Tally α) [] where
  nodup := List.nodup_nil
  mem_entries _ _ := by simp [OrderedMap.empty]

theorem Counts.get?_eq (h : Counts t xs) (a : α) :
    t.get? a = if a ∈ xs then some (xs.count a) else none := by
  split
  · next ha => exact (OrderedMap.mem_entries_iff h.nodup).mp ((h.mem_entries a _).mpr ⟨ha, rfl⟩)
  · next ha =>
    cases hget : t.get? a with
    | none => rfl
    | some n =>
      have hmem := (OrderedMap.mem_entries_iff h.nodup).mpr hget
      exact absurd ((h.mem_entries a n).mp hmem).1 ha

/-- Counting one more thing. -/
theorem Counts.count (h : Counts t xs) (a : α) : Counts (t.count a) (xs ++ [a]) where
  nodup := OrderedMap.nodup_keys_alter h.nodup a _
  mem_entries b n := by
    have hnodup := OrderedMap.nodup_keys_alter h.nodup a fun n => n.getD 0 + 1
    rw [Tally.count, OrderedMap.mem_entries_iff hnodup, OrderedMap.get?_alter, h.get?_eq, h.get?_eq]
    by_cases hab : a = b
    · subst hab
      by_cases ha : a ∈ xs
      · simp [ha, eq_comm]
      · simp [ha, List.count_eq_zero.mpr ha, eq_comm]
    · have hba : b ≠ a := fun he => hab he.symm
      simp [hab, hba, eq_comm]

/-- The order in which the things occur does not matter. -/
theorem Counts.perm (h : Counts t xs) (hp : xs.Perm ys) : Counts t ys where
  nodup := h.nodup
  mem_entries a n := by rw [h.mem_entries, hp.mem_iff, hp.count_eq]

end Counts

/-! ### The table of a corpus -/

/-- The tags of a word, one for each occurrence. -/
def tagsOf (entries : List (String × Tag)) (word : String) : List Tag :=
  (entries.filter fun e => e.1 = word).map (·.2)

/-- A table with each word of the entries and the tally of its tags. -/
structure Tallied (counts : OrderedMap String (Tally Tag)) (entries : List (String × Tag)) :
    Prop where
  nodup : counts.keys.Nodup
  mem_keys : ∀ word, word ∈ counts.keys ↔ word ∈ entries.map (·.1)
  tallies : ∀ e ∈ counts.entries, Counts e.2 (tagsOf entries e.1)

section Tallied

variable {counts : OrderedMap String (Tally Tag)} {entries entries' : List (String × Tag)}

theorem mem_tagsOf {word : String} {tag : Tag} :
    tag ∈ tagsOf entries word ↔ (word, tag) ∈ entries := by
  simp [tagsOf]

/-- A word has a tag as often as they stand together. -/
theorem count_tagsOf (entries : List (String × Tag)) (word : String) (tag : Tag) :
    (tagsOf entries word).count tag = entries.count (word, tag) := by
  rw [tagsOf, List.count, List.countP_map, List.countP_filter, List.count]
  refine List.countP_congr fun e _ => ?_
  simp [Prod.ext_iff, and_comm]

theorem tagsOf_concat (entries : List (String × Tag)) (entry : String × Tag) (word : String) :
    tagsOf (entries ++ [entry]) word =
      tagsOf entries word ++ if entry.1 = word then [entry.2] else [] := by
  by_cases h : entry.1 = word <;> simp [tagsOf, h]

theorem tagsOf_eq_nil {word : String} (h : word ∉ entries.map (·.1)) :
    tagsOf entries word = [] := by
  rw [List.eq_nil_iff_forall_not_mem]
  intro tag htag
  exact h (List.mem_map.mpr ⟨(word, tag), mem_tagsOf.mp htag, rfl⟩)

theorem tallied_empty : Tallied OrderedMap.empty [] where
  nodup := List.nodup_nil
  mem_keys _ := Iff.rfl
  tallies _ h := absurd h List.not_mem_nil

/-- Counting one more word. -/
theorem Tallied.countWord (h : Tallied counts entries) (entry : String × Tag) :
    Tallied (countWord counts entry) (entries ++ [entry]) where
  nodup := OrderedMap.nodup_keys_alter h.nodup _ _
  mem_keys word := by
    rw [Lexicon.countWord, OrderedMap.mem_keys_alter, h.mem_keys, List.map_append, List.mem_append,
      List.map_singleton, List.mem_singleton]
  tallies := by
    rintro ⟨word, t⟩ hmem
    have hnodup := OrderedMap.nodup_keys_alter h.nodup entry.1
      fun t => (t.getD OrderedMap.empty).count entry.2
    rw [Lexicon.countWord, OrderedMap.mem_entries_iff hnodup, OrderedMap.get?_alter] at hmem
    dsimp only
    rw [tagsOf_concat]
    by_cases hword : entry.1 = word
    · subst hword
      rw [if_pos rfl, Option.some.injEq] at hmem
      rw [if_pos rfl, ← hmem]
      refine Counts.count ?_ entry.2
      cases hget : counts.get? entry.1 with
      | some old => exact h.tallies _ ((OrderedMap.mem_entries_iff h.nodup).mpr hget)
      | none =>
        -- a new word has no tags yet
        have hnew : entry.1 ∉ counts.keys := by
          rw [OrderedMap.mem_keys_iff, hget]
          simp
        rw [tagsOf_eq_nil fun hm => hnew ((h.mem_keys _).mpr hm)]
        exact counts_empty
    · rw [if_neg hword] at hmem ⊢
      rw [List.append_nil]
      exact h.tallies _ ((OrderedMap.mem_entries_iff h.nodup).mpr hmem)

/-- The order in which the words occur does not matter. -/
theorem Tallied.perm (h : Tallied counts entries) (hp : entries.Perm entries') :
    Tallied counts entries' where
  nodup := h.nodup
  mem_keys word := by rw [h.mem_keys, (hp.map _).mem_iff]
  tallies e he := (h.tallies e he).perm ((hp.filter _).map _)

/-- The table that is counted from a corpus. -/
theorem tallied_tagCounts (corpus : Corpus) : Tallied (tagCounts corpus) corpus.flatten := by
  have hfold : ∀ (rest seen : List (String × Tag)) (counts : OrderedMap String (Tally Tag)),
      Tallied counts seen → Tallied (rest.foldl Lexicon.countWord counts) (seen ++ rest) := by
    intro rest
    induction rest with
    | nil => intro seen counts h; rwa [List.append_nil]
    | cons entry rest ih =>
      intro seen counts h
      have hrest := ih _ _ (h.countWord entry)
      rwa [List.append_assoc, List.singleton_append] at hrest
  exact hfold corpus.flatten [] OrderedMap.empty tallied_empty

end Tallied

/-! ### The most frequent tag -/

/-- Whether a tag with its count is as good as another one: it is more frequent, or as frequent and
not behind the other one by name. -/
def Beats (a b : Tag × Nat) : Prop :=
  b.2 < a.2 ∨ (b.2 = a.2 ∧ textBefore b.1 a.1 = false)

theorem Beats.refl (a : Tag × Nat) : Beats a a :=
  .inr ⟨rfl, textBefore_irrefl a.1⟩

theorem Beats.trans {a b c : Tag × Nat} (hab : Beats a b) (hbc : Beats b c) : Beats a c := by
  rcases hab with hlt | ⟨heq, hnot⟩
  · rcases hbc with hlt' | ⟨heq', -⟩
    · exact .inl (Nat.lt_trans hlt' hlt)
    · exact .inl (heq' ▸ hlt)
  · rcases hbc with hlt' | ⟨heq', hnot'⟩
    · exact .inl (heq ▸ hlt')
    · exact .inr ⟨heq'.trans heq, textBefore_eq_false_trans hnot hnot'⟩

/-- The better one of two tags is as good as both. -/
theorem moreFrequent_spec (a b : Tag × Nat) :
    (moreFrequent a b = a ∨ moreFrequent a b = b) ∧
      Beats (moreFrequent a b) a ∧ Beats (moreFrequent a b) b := by
  unfold moreFrequent
  split
  · next hlt => exact ⟨.inr rfl, .inl hlt, .refl b⟩
  · next hnlt =>
    split
    · next hlt => exact ⟨.inl rfl, .refl a, .inl hlt⟩
    · next hnlt' =>
      have heq : a.2 = b.2 := by omega
      split
      · next hbefore => exact ⟨.inr rfl, .inr ⟨heq, textBefore_asymm hbefore⟩, .refl b⟩
      · next hbefore => exact ⟨.inl rfl, .refl a, .inr ⟨heq.symm, by simpa using hbefore⟩⟩

theorem chooses_moreFrequent : Chooses Beats moreFrequent :=
  ⟨Beats.refl, Beats.trans, moreFrequent_spec⟩

/-- The most frequent one of some tags, and of equally frequent ones the first by name. -/
structure MostFrequent (tags : List Tag) (tag : Tag) : Prop where
  mem : tag ∈ tags
  beats : ∀ other ∈ tags, Beats (tag, tags.count tag) (other, tags.count other)

/-- There is one most frequent tag at most. -/
theorem MostFrequent.unique {tags : List Tag} {tag other : Tag} (h : MostFrequent tags tag)
    (h' : MostFrequent tags other) : tag = other := by
  have hother := h.beats other h'.mem
  have htag := h'.beats tag h.mem
  simp only [Beats] at hother htag
  rcases hother with hlt | ⟨heq, hnot⟩
  · rcases htag with hlt' | ⟨heq', -⟩ <;> omega
  · rcases htag with hlt' | ⟨-, hnot'⟩
    · omega
    · exact (eq_of_textBefore_eq_false hnot hnot').symm

/-- A tally gives the most frequent one of the tags that it counts. -/
theorem mostFrequent?_eq_some_iff {t : Tally Tag} {tags : List Tag} (h : Counts t tags)
    {tag : Tag} : mostFrequent? t = some tag ↔ MostFrequent tags tag := by
  unfold mostFrequent?
  split
  · next hentries =>
    refine ⟨(by intro h; cases h), fun hbest => ?_⟩
    have hmem := (h.mem_entries tag _).mpr ⟨hbest.mem, rfl⟩
    rw [hentries] at hmem
    cases hmem
  · next e rest hentries =>
    obtain ⟨hmem, hbeats⟩ := chooses_moreFrequent.foldl rest e
    rw [← hentries] at hmem hbeats
    have hbest : MostFrequent tags (rest.foldl moreFrequent e).1 := by
      obtain ⟨htag, hcount⟩ := (h.mem_entries _ _).mp hmem
      refine ⟨htag, fun other hother => ?_⟩
      rw [← hcount]
      exact hbeats _ ((h.mem_entries other _).mpr ⟨hother, rfl⟩)
    rw [Option.some.injEq]
    exact ⟨fun he => he ▸ hbest, fun h => hbest.unique h⟩

end Lexicon

end ShallowTransfer
