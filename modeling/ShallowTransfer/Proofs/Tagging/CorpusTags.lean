import ShallowTransfer.Proofs.Tag.Canonical
import ShallowTransfer.Proofs.Tagging.BestGuess
import ShallowTransfer.Proofs.Tagging.LearnedRules

/-!
The tags of a corpus and the tag set that is made of them. The tag set has the trimmed names, but
words and sentences are looked up in it as they are written. So a corpus with a padded or an empty
tag does not know its own tags: training is refused for such a tag, and so is the lexicon where the
tag is the most frequent one of a word (`Learner.train_knows_tags_iff`).
-/

namespace ShallowTransfer

/-- The tags of a corpus, one for each word. -/
def Corpus.tags (corpus : Corpus) : List Tag :=
  corpus.flatten.map Prod.snd

section Corpus

variable (corpus : Corpus) {options : LexiconOptions}

/-! ### The lexicon -/

/-- The lexicon of a corpus has the most frequent tags over the tag set of all its tags. -/
theorem Lexicon.ofCorpus_eq_ofEntries (hfallback : Text.isBlankText options.fallbackTag = false) :
    ofCorpus corpus options = ofEntries (TagSet.assemble corpus.tags options.fallbackTag)
      (guesses (tagCounts corpus)) options := by
  have htags (t : Tag) : t ∈ (tagCounts corpus).entries.flatMap (fun e => e.2.keys) ↔
      t ∈ corpus.tags := by
    rw [(tallied_tagCounts corpus).mem_tags, Corpus.tags, List.mem_map]
    exact ⟨fun ⟨word, h⟩ => ⟨_, h, rfl⟩, fun ⟨e, h, he⟩ => ⟨e.1, he ▸ h⟩⟩
  rw [ofCorpus_eq, ofCounts, TagSet.build_congr htags, TagSet.build_eq corpus.tags hfallback]

/-- The most frequent tag of a word stands in the corpus. -/
theorem Lexicon.mem_flatten_of_mem_guesses {corpus : Corpus} {entry : String × Tag}
    (h : entry ∈ guesses (tagCounts corpus)) : entry ∈ corpus.flatten :=
  mem_tagsOf.mp (((tallied_tagCounts corpus).mem_guesses entry.1 entry.2).mp h).mem

/-- The lexicon of a corpus is over the tag set of the corpus. -/
theorem Lexicon.tagSet_of_ofCorpus (hfallback : Text.isBlankText options.fallbackTag = false)
    {lexicon : Lexicon} (h : ofCorpus corpus options = .ok lexicon) :
    lexicon.tagSet = TagSet.assemble corpus.tags options.fallbackTag := by
  rw [ofCorpus_eq_ofEntries corpus hfallback] at h
  obtain ⟨_, -, rfl⟩ := ofEntries_eq_ok h
  rfl

/-- The lexicon of a corpus is refused for the first foreign tag among the most frequent ones. -/
theorem Lexicon.error?_ofCorpus (hfallback : Text.isBlankText options.fallbackTag = false) :
    error? (ofCorpus corpus options) =
      ((TagSet.assemble corpus.tags options.fallbackTag).firstForeign?
        (guesses (tagCounts corpus))).map fun entry => .unknownTag entry.2 := by
  rw [ofCorpus_eq_ofEntries corpus hfallback, error?_ofEntries]

/-! ### Training -/

/-- Training is refused for the first foreign tag of the lexicon, or else of the corpus. -/
theorem Learner.error?_train (l : Learner)
    (hfallback : Text.isBlankText options.fallbackTag = false) :
    error? (l.train corpus options) =
      ((TagSet.assemble corpus.tags options.fallbackTag).firstForeign?
        (Lexicon.guesses (Lexicon.tagCounts corpus) ++ corpus.flatten)).map
          fun entry => .unknownTag entry.2 := by
  have hguesses := Lexicon.error?_ofCorpus corpus hfallback
  rw [train, TagSet.firstForeign?, List.find?_append]
  cases hof : Lexicon.ofCorpus corpus options with
  | error e =>
    obtain ⟨entry, hfirst, rfl⟩ :=
      Option.map_eq_some_iff.mp (hguesses.symm.trans (error?_eq_some_iff.mpr hof))
    rw [TagSet.firstForeign?] at hfirst
    rw [hfirst]
    rfl
  | ok lexicon =>
    rw [hof, error?, eq_comm, Option.map_eq_none_iff, TagSet.firstForeign?] at hguesses
    have hlearn := l.error?_learn corpus lexicon
    rw [Lexicon.tagSet_of_ofCorpus corpus hfallback hof, TagSet.firstForeign?] at hlearn
    rw [hguesses, Option.none_or, ← hlearn]
    cases hcourse : l.learn corpus lexicon with
    | error e => simp only [bind, Except.bind, hcourse]; rfl
    | ok course =>
      obtain ⟨t, ht⟩ := exists_ofRules (Lexicon.Built.ofCorpus hof).known hcourse
      simp only [bind, Except.bind, hcourse, ht]
      rfl

/-- A corpus makes a lexicon exactly if its tag set knows the most frequent tag of each word as it
is written, and training succeeds exactly if it knows all tags of the corpus. Otherwise a tag is
told that it does not know. -/
theorem Learner.train_knows_tags_iff (l : Learner)
    (hfallback : Text.isBlankText options.fallbackTag = false) :
    ((∃ t, l.train corpus options = .ok t) ↔
      ∀ entry ∈ corpus.flatten, TagSet.Kept corpus.tags options.fallbackTag entry.2) ∧
    (∀ e, l.train corpus options = .error e → ∃ entry ∈ corpus.flatten,
      ¬ TagSet.Kept corpus.tags options.fallbackTag entry.2 ∧ e = .unknownTag entry.2) ∧
    ((∃ lexicon, Lexicon.ofCorpus corpus options = .ok lexicon) ↔
      ∀ word tag, Lexicon.MostFrequent (Lexicon.tagsOf corpus.flatten word) tag →
        TagSet.Kept corpus.tags options.fallbackTag tag) ∧
    ∀ e, Lexicon.ofCorpus corpus options = .error e → ∃ word tag,
      Lexicon.MostFrequent (Lexicon.tagsOf corpus.flatten word) tag ∧
        ¬ TagSet.Kept corpus.tags options.fallbackTag tag ∧ e = .unknownTag tag := by
  have hbest := (Lexicon.tallied_tagCounts corpus).mem_guesses
  have hkept : ∀ entry ∈ corpus.flatten,
      (entry.2 ∈ (TagSet.assemble corpus.tags options.fallbackTag).names ↔
        TagSet.Kept corpus.tags options.fallbackTag entry.2) := fun entry h =>
    TagSet.mem_assemble_iff_kept hfallback (List.mem_map_of_mem h)
  obtain ⟨htrain, htrainError⟩ := TagSet.succeeds_iff (l.error?_train corpus hfallback)
  obtain ⟨hlexicon, hlexiconError⟩ :=
    TagSet.succeeds_iff (Lexicon.error?_ofCorpus corpus hfallback)
  refine ⟨?_, fun e he => ?_, ?_, fun e he => ?_⟩
  · rw [htrain, List.forall_mem_append,
      and_iff_right_of_imp fun hall entry h => hall entry (Lexicon.mem_flatten_of_mem_guesses h)]
    exact forall₂_congr hkept
  · obtain ⟨entry, hmem, hforeign, rfl⟩ := htrainError e he
    have hentry : entry ∈ corpus.flatten := 
      (List.mem_append.mp hmem).elim Lexicon.mem_flatten_of_mem_guesses id
    exact ⟨entry, hentry, mt (hkept entry hentry).mpr hforeign, rfl⟩
  · rw [hlexicon, Prod.forall]
    refine forall₂_congr fun word tag => ?_
    rw [← hbest word tag]
    exact forall_congr' fun h => hkept _ (Lexicon.mem_flatten_of_mem_guesses h)
  · obtain ⟨⟨word, tag⟩, h, hforeign, rfl⟩ := hlexiconError e he
    have hentry := Lexicon.mem_flatten_of_mem_guesses h
    exact ⟨word, tag, (hbest word tag).mp h, mt (hkept _ hentry).mpr hforeign, rfl⟩

end Corpus

namespace Learner

/-- A word whose tag is padded once, and otherwise written as the tag set writes it. -/
def paddedOnce : Corpus := [[("a", "n"), ("a", " n")], [("a", "n")]]

/-- The most frequent tag of the word is known, so there is a lexicon; training is refused. -/
theorem train_knows_tags_iff_paddedOnce :
    Text.isBlankText "UNK" = false ∧
      (∀ word tag, Lexicon.MostFrequent (Lexicon.tagsOf paddedOnce.flatten word) tag →
        TagSet.Kept paddedOnce.tags "UNK" tag) ∧
      ¬ ∃ t, (prevTagLearner 1 (by decide)).train paddedOnce .default = .ok t := by
  have hfallback : Text.isBlankText LexiconOptions.default.fallbackTag = false := by decide
  obtain ⟨htrain, -, hlexicon, -⟩ :=
    train_knows_tags_iff paddedOnce (prevTagLearner 1 (by decide)) hfallback
  have hok : Lexicon.ofCorpus paddedOnce .default =
      .ok ⟨⟨["UNK", "n"]⟩, ⟨[("a", 1)]⟩, .default⟩ := by decide +kernel
  refine ⟨hfallback, hlexicon.mp ⟨_, hok⟩, fun h => ?_⟩
  have hkept := htrain.mp h ("a", " n") (by decide)
  exact absurd hkept.spelled.1 (by decide)

/-- A corpus with a single padded tag, which neither makes a lexicon nor can be trained on. -/
theorem train_padded_tag :
    Text.isBlankText LexiconOptions.default.fallbackTag = false ∧
      Lexicon.ofCorpus [[("a", " n")]] .default = .error (.unknownTag " n") ∧
      (prevTagLearner 1 (by decide)).train [[("a", " n")]] .default =
        .error (.unknownTag " n") := by
  exact ⟨by decide, by decide, error?_eq_some_iff.mp (by decide)⟩

end Learner

end ShallowTransfer
