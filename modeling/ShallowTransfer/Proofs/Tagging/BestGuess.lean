import Mathlib.Algebra.Order.BigOperators.Group.List
import Mathlib.Algebra.Order.Ring.Nat
import ShallowTransfer.Proofs.Tagging.ListedWords

/-!
The first guess is the best one. A guess that gives one tag to each word is wrong, word by word, as
often as the word has another tag, so nothing is gained by another tag than the most frequent one of
each word (`Lexicon.misses_le`). The lexicon of a corpus knows every word of it by this tag, and of
equally frequent tags by the first one by name (`Lexicon.ofCorpus_guesses_best`).
-/

namespace ShallowTransfer

namespace Lexicon

/-! ### Wrong guesses, word by word -/

/-- The tagged words that have another tag than the one assigned to the word. -/
def misses (assign : String → Tag) (entries : List (String × Tag)) : Nat :=
  entries.countP fun e => assign e.1 ≠ e.2

/-- Pairs are counted key by key. -/
theorem countP_eq_sum {α β : Type} [DecidableEq α] (p : α × β → Bool) (keys : List α) :
    ∀ {entries : List (α × β)}, keys.Nodup → (∀ e ∈ entries, e.1 ∈ keys) →
      entries.countP p = (keys.map fun k => (entries.filter fun e => e.1 = k).countP p).sum := by
  induction keys with
  | nil =>
    intro entries _ hkeys
    cases entries with
    | nil => rfl
    | cons e rest => cases hkeys e List.mem_cons_self
  | cons k ks ih =>
    intro entries hnodup hkeys
    obtain ⟨hk, hks⟩ := List.nodup_cons.mp hnodup
    have hrest : ∀ e ∈ entries.filter (fun e => !decide (e.1 = k)), e.1 ∈ ks := fun e he => by
      obtain ⟨hmem, hne⟩ := List.mem_filter.mp he
      exact (List.mem_cons.mp (hkeys e hmem)).resolve_left (by simpa using hne)
    have hothers : ∀ k' ∈ ks,
        (entries.filter fun e => !decide (e.1 = k)).filter (fun e => e.1 = k') =
          entries.filter fun e => e.1 = k' := fun k' hk' => by
      rw [List.filter_filter]
      refine List.filter_congr fun e _ => ?_
      by_cases he : e.1 = k'
      · have hne : k' ≠ k := fun heq => hk (heq ▸ hk')
        simp [he, hne]
      · simp [he]
    rw [List.countP_eq_countP_filter_add entries p fun e => e.1 = k, ih hks hrest, List.map_cons,
      List.sum_cons]
    refine congrArg _ (congrArg List.sum (List.map_congr_left fun k' hk' => ?_))
    rw [hothers k' hk']

/-- Wrong guesses are counted word by word. -/
theorem misses_eq_sum {words : List String} (hnodup : words.Nodup)
    {entries : List (String × Tag)} (hwords : ∀ e ∈ entries, e.1 ∈ words)
    (assign : String → Tag) : misses assign entries =
      (words.map fun w => (tagsOf entries w).countP fun t => assign w ≠ t).sum := by
  rw [misses, countP_eq_sum _ words hnodup hwords]
  refine congrArg List.sum (List.map_congr_left fun w _ => ?_)
  rw [tagsOf, List.countP_map]
  refine List.countP_congr fun e he => ?_
  have hword : e.1 = w := by simpa using (List.mem_filter.mp he).2
  rw [hword]
  rfl

/-! ### The most frequent tag misses least -/

/-- Every other tag is less frequent, or as frequent and behind it by name. -/
theorem MostFrequent.wins {tags : List Tag} {tag : Tag} (h : MostFrequent tags tag) {other : Tag}
    (hne : other ≠ tag) : tags.count other < tags.count tag ∨
      tags.count other = tags.count tag ∧ textBefore tag other = true := by
  by_cases hmem : other ∈ tags
  · exact (h.beats other hmem).imp id fun hname => ⟨hname.1, textBefore_total hne hname.2⟩
  · rw [List.count_eq_zero.mpr hmem]
    exact .inl (List.count_pos_iff.mpr h.mem)

/-- The most frequent tag is wrong at most as often as any other one. -/
theorem MostFrequent.misses_le {tags : List Tag} {tag : Tag} (h : MostFrequent tags tag)
    (other : Tag) : (tags.countP fun t => tag ≠ t) ≤ tags.countP fun t => other ≠ t := by
  have hsplit (t : Tag) : tags.length = tags.count t + tags.countP fun t' => t ≠ t' := by
    rw [List.length_eq_countP_add_countP (fun t' => t' == t), List.count]
    refine congrArg _ (List.countP_congr fun t' _ => ?_)
    rw [decide_eq_true_eq, decide_eq_true_eq, beq_iff_eq]
    exact ne_comm
  have hle : tags.count other ≤ tags.count tag := by
    rcases eq_or_ne other tag with rfl | hne
    · exact Nat.le_refl _
    · exact (h.wins hne).elim Nat.le_of_lt fun hname => Nat.le_of_eq hname.1
  have htag := hsplit tag
  have hother := hsplit other
  omega

/-- Tags that are the most frequent ones of their words are wrong at most as often as any others. -/
theorem misses_le {words : List String} (hnodup : words.Nodup) {entries : List (String × Tag)}
    (hwords : ∀ e ∈ entries, e.1 ∈ words) {best : String → Tag}
    (hbest : ∀ w ∈ words, MostFrequent (tagsOf entries w) (best w)) (assign : String → Tag) :
    misses best entries ≤ misses assign entries := by
  rw [misses_eq_sum hnodup hwords, misses_eq_sum hnodup hwords]
  exact List.sum_le_sum fun w hw => (hbest w hw).misses_le (assign w)

/-! ### What the lexicon of a corpus knows -/

/-- Every word of a table is guessed. -/
theorem Tallied.exists_guess {counts : OrderedMap String (Tally Tag)}
    {entries : List (String × Tag)} (h : Tallied counts entries) {word : String}
    (hword : word ∈ counts.keys) : ∃ tag, (word, tag) ∈ guesses counts := by
  obtain ⟨e, he, rfl⟩ := List.mem_map.mp hword
  obtain ⟨entry, hentry, hkey⟩ := List.mem_map.mp ((h.mem_keys e.1).mp hword)
  have htag := ((h.tallies e he).mem_entries entry.2 _).mpr
    ⟨mem_tagsOf.mpr (by rw [← hkey]; exact hentry), rfl⟩
  have hsome : (mostFrequent? e.2).isSome := by
    rw [mostFrequent?]
    split
    · next hnil => rw [hnil] at htag; cases htag
    · rfl
  obtain ⟨tag, hbest⟩ := Option.isSome_iff_exists.mp hsome
  exact ⟨tag, List.mem_filterMap.mpr ⟨e, he, by rw [hbest, Option.map_some]⟩⟩

/-- Words that come once are looked up with their tags. -/
theorem get?_of_ofEntries {tagSet : TagSet} {entries : List (String × Tag)}
    {options : LexiconOptions} {l : Lexicon} (h : ofEntries tagSet entries options = .ok l)
    (hnodup : (entries.map Prod.fst).Nodup) {word : String} {tag : Tag}
    (hmem : (word, tag) ∈ entries) : ∃ id, l.words.get? word = some id ∧
      l.tagSet.id? tag = some id := by
  obtain ⟨numbered, hnumbered, rfl⟩ := ofEntries_eq_ok h
  obtain ⟨e, -, hres⟩ := exists_of_mem_forall₂ (mapM_eq_ok_iff.mp hnumbered).flip hmem
  have hid : tagSet.id? tag = some e.2 := resolve_eq_ok hres
  refine ⟨e.2, (get?_sorted_iff hnumbered).mpr ⟨⟨tag, hmem, hid⟩, ?_⟩, hid⟩
  -- the tag is the only one that is listed for the word
  rintro i ⟨tag', hmem', hid'⟩
  obtain ⟨-, rfl⟩ := Prod.mk.inj (List.inj_on_of_nodup_map hnodup hmem' hmem rfl)
  rw [Option.some_inj.mp (hid'.symm.trans hid)]
  exact UInt16.le_refl _

/-- The name of the first guess for a word. -/
def likelyTag (l : Lexicon) (word : String) : Tag :=
  l.tagSet.nameOrFallback (l.lookup word).1

/-- A word of the corpus is looked up with its most frequent tag. -/
theorem exists_lookup_of_ofCorpus {corpus : Corpus} {options : LexiconOptions} {l : Lexicon}
    (h : ofCorpus corpus options = .ok l) {word : String}
    (hword : word ∈ corpus.flatten.map Prod.fst) :
    ∃ id tag, l.lookup word = (id, .lexicon) ∧ l.tagSet.name? id = some tag ∧
      MostFrequent (tagsOf corpus.flatten word) tag := by
  have hcounts := tallied_tagCounts corpus
  obtain ⟨tag, htag⟩ := hcounts.exists_guess ((hcounts.mem_keys word).mpr hword)
  have hnumbered := (Built.ofCorpus h).known.numbered
  rw [ofCorpus_eq, ofCounts] at h
  split at h
  · cases h
  · obtain ⟨id, hget, hid⟩ := get?_of_ofEntries h hcounts.nodup_map_fst_guesses htag
    refine ⟨id, tag, ?_, TagSet.name?_of_id? hnumbered hid, (hcounts.mem_guesses word tag).mp htag⟩
    rw [lookup, hget]

/-- The lexicon of a corpus makes the best guess that assigns one tag to each word: no other such
guess is wrong less often on the corpus. It knows every word of the corpus, by the tag that the word
has most often; of equally frequent tags by the first one by name, whatever their numbers are. -/
theorem ofCorpus_guesses_best {corpus : Corpus} {options : LexiconOptions} {l : Lexicon}
    (h : ofCorpus corpus options = .ok l) :
    (∀ assign : String → Tag, misses l.likelyTag corpus.flatten ≤ misses assign corpus.flatten) ∧
    ∀ word ∈ corpus.flatten.map Prod.fst, ∃ id tag,
      l.lookup word = (id, .lexicon) ∧ l.tagSet.name? id = some tag ∧
        (word, tag) ∈ corpus.flatten ∧ ∀ other ≠ tag,
          corpus.flatten.count (word, other) < corpus.flatten.count (word, tag) ∨
            corpus.flatten.count (word, other) = corpus.flatten.count (word, tag) ∧
              textBefore tag other = true := by
  refine ⟨fun assign => ?_, fun word hword => ?_⟩
  · have hcounts := tallied_tagCounts corpus
    have hwords : ∀ e ∈ corpus.flatten, e.1 ∈ (tagCounts corpus).keys := fun e he =>
      (hcounts.mem_keys e.1).mpr (List.mem_map_of_mem he)
    refine misses_le hcounts.nodup hwords (fun word hword => ?_) assign
    obtain ⟨id, tag, hlookup, hname, hbest⟩ :=
      exists_lookup_of_ofCorpus h ((hcounts.mem_keys word).mp hword)
    rwa [likelyTag, hlookup, TagSet.nameOrFallback, hname, Option.getD_some]
  · obtain ⟨id, tag, hlookup, hname, hbest⟩ := exists_lookup_of_ofCorpus h hword
    refine ⟨id, tag, hlookup, hname, mem_tagsOf.mp hbest.mem, fun other hne => ?_⟩
    have hwins := hbest.wins hne
    rwa [count_tagsOf, count_tagsOf] at hwins

/-- A word that is as often a verb as a noun, where the verb is the tag of unknown words. -/
def twoTags : Corpus := [[("b", "v"), ("b", "n")]]

/-- The lexicon of this corpus, where the verb has the smaller number. -/
def nounLexicon : Lexicon := ⟨⟨["v", "n"]⟩, ⟨[("b", 1)]⟩, ⟨"v", true⟩⟩

/-- The noun wins by its name, and no other guess is wrong less often. -/
theorem ofCorpus_guesses_best_twoTags :
    ofCorpus twoTags ⟨"v", true⟩ = .ok nounLexicon ∧ nounLexicon.likelyTag "b" = "n" ∧
      ∀ assign : String → Tag,
        misses nounLexicon.likelyTag twoTags.flatten ≤ misses assign twoTags.flatten := by
  have hok : ofCorpus twoTags ⟨"v", true⟩ = .ok nounLexicon := by decide +kernel
  obtain ⟨hbest, -⟩ := ofCorpus_guesses_best hok
  exact ⟨hok, by decide, hbest⟩

end Lexicon

end ShallowTransfer
