import ShallowTransfer.Build.Directory
import ShallowTransfer.Proofs.Build.Corpora
import ShallowTransfer.Proofs.Tagging.CorpusTags

/-!
Training on files. The files of a corpus and of a lexicon give trimmed tags that are not empty
(`spelled_of_parseLexicon`, `spelled_of_parseCorpus`), and such a tag is known to every tag set that
is made of it. So nothing in these files can have an unknown tag: training is refused for a blank
fallback tag, for a lexicon file without a tag that could be told from the fallback tag, and for
options that no learner has, and for nothing else (`train_never_unknown`).
-/

namespace ShallowTransfer

namespace Build

open TagSet (Spelled)

/-! ### Tags of files -/

/-- What is left of a column that is not blank is a tag as tag sets spell it. -/
theorem spelled_trimChars {cs : List Char} (h : Text.trimChars cs ≠ []) :
    Spelled (String.ofList (Text.trimChars cs)) := by
  refine ⟨?_, fun hempty => h ?_⟩
  · rw [Text.trim, String.toList_ofList, Text.trimChars_of_trimmed (Text.trimmed_trimChars cs)]
  · rw [← String.toList_eq_nil_iff, String.toList_ofList] at hempty
    exact hempty

/-- The tag on a line is spelled as in tag sets. -/
theorem Line.spelled_of_pair {path : String} {l : Line} {entry : String × Tag}
    (h : l.pair path = .ok entry) : Spelled entry.2 := by
  obtain ⟨word, tag, -, -, htag, rfl⟩ := Line.pairOn_of_pair h
  exact spelled_trimChars htag

/-- The tags of a lexicon file are spelled as in tag sets. -/
theorem spelled_of_parseLexicon {text path : String} {entries : List (String × Tag)}
    (h : parseLexicon text path = .ok entries) : ∀ entry ∈ entries, Spelled entry.2 := by
  intro entry hmem
  obtain ⟨l, -, hpair⟩ := exists_of_mem_forall₂ (mapM_eq_ok_iff.mp h) hmem
  exact l.spelled_of_pair hpair

/-- The tags of a corpus file are spelled as in tag sets, as a lexicon file with the same text has
the same tags. -/
theorem spelled_of_parseCorpus {text path : String} {corpus : Corpus}
    (h : parseCorpus text path = .ok corpus) : ∀ entry ∈ corpus.flatten, Spelled entry.2 := by
  have hlexicon : parseLexicon text path = .ok corpus.flatten := by
    rw [parseLexicon_eq, h]
    rfl
  exact spelled_of_parseLexicon hlexicon

/-- The entries of a lexicon file, if there is one. -/
def parseLexicon? (path : String) : Option String → Except Error (Option (List (String × Tag)))
  | none => .ok none
  | some text => (parseLexicon text path).map some

/-- The tags of a lexicon file, if there is one, and those of a corpus. -/
def fileTags (entries : Option (List (String × Tag))) (corpus : Corpus) : List Tag :=
  (entries.getD []).map Prod.snd ++ corpus.tags

theorem spelled_of_mem_fileTags {text path : String} {corpus : Corpus}
    (hcorpus : parseCorpus text path = .ok corpus) {text? : Option String} {path' : String}
    {entries : Option (List (String × Tag))} (hentries : parseLexicon? path' text? = .ok entries) :
    ∀ tag ∈ fileTags entries corpus, Spelled tag := by
  rw [fileTags, Corpus.tags]
  refine List.forall_mem_append.mpr
    ⟨List.forall_mem_map.mpr ?_, List.forall_mem_map.mpr (spelled_of_parseCorpus hcorpus)⟩
  cases text? with
  | none => cases hentries; simp
  | some text' =>
    obtain ⟨es, hes, rfl⟩ := map_eq_ok_iff.mp hentries
    exact spelled_of_parseLexicon hes

/-! ### The lexicon -/

section Lexicon

variable {entries : Option (List (String × Tag))} {corpus : Corpus} {options : LexiconOptions}

/-- A blank fallback tag gives no lexicon. -/
theorem lexiconFor_of_isBlankText (h : Text.isBlankText options.fallbackTag = true) :
    lexiconFor entries corpus options = .error (.config .emptyFallbackTag) := by
  cases entries with
  | none => rw [lexiconFor, Lexicon.ofCorpus_eq, Lexicon.ofCounts, TagSet.build_of_isBlankText _ h]
  | some es => rw [lexiconFor, lexiconOfEntries, TagSet.ofTags_of_isBlankText _ h]

/-- Tags that are spelled as in tag sets give no other name if and only if all of them are the
fallback tag. -/
theorem otherNames_eq_empty_iff {tags : List Tag} (h : ∀ tag ∈ tags, Spelled tag) (fallback : Tag) :
    TagSet.otherNames tags fallback = ∅ ↔ ∀ tag ∈ tags, tag = Text.trim fallback := by
  rw [Finset.eq_empty_iff_forall_notMem]
  constructor
  · intro hnone tag hmem
    by_contra hne
    obtain ⟨htrim, hempty⟩ := h tag hmem
    exact hnone tag (TagSet.mem_otherNames.mpr ⟨⟨tag, hmem, htrim⟩, hempty, hne⟩)
  · intro hall t ht
    obtain ⟨⟨tag, hmem, rfl⟩, -, hne⟩ := TagSet.mem_otherNames.mp ht
    rw [(h tag hmem).1] at hne
    exact hne (hall tag hmem)

/-- Tags that are spelled as in tag sets are known to the tag set that is made of them, as long as
they are not too many. -/
theorem mem_names_of_spelled {tags : List Tag} {fallback : Tag}
    (hfallback : Text.isBlankText fallback = false) (hcount : tags.toFinset.card < tagIdCount)
    (h : ∀ tag ∈ tags, Spelled tag) : ∀ tag ∈ tags,
      tag ∈ (TagSet.assemble tags fallback).names := by
  intro tag hmem
  refine (TagSet.mem_assemble_iff_kept hfallback hmem).mpr ⟨h tag hmem, ?_⟩
  refine Nat.lt_of_le_of_lt (Finset.card_le_card fun t ht => ?_) hcount
  obtain ⟨⟨tag', hmem', rfl⟩, -⟩ := TagSet.mem_otherNames.mp (Finset.mem_filter.mp ht).1
  rw [(h tag' hmem').1]
  exact List.mem_toFinset.mpr hmem'

/-- The tag set of a lexicon file is made of the tags of both files, of which one must not be the
fallback tag. -/
theorem lexiconFor_some (es : List (String × Tag))
    (hfallback : Text.isBlankText options.fallbackTag = false) :
    lexiconFor (some es) corpus options =
      if TagSet.otherNames (fileTags (some es) corpus) options.fallbackTag = ∅ then
        .error (.config .emptyTagSet)
      else Lexicon.ofEntries (TagSet.assemble (fileTags (some es) corpus) options.fallbackTag) es
        options := by
  have htags : es.map (·.2) ++ corpus.flatten.map (·.2) = fileTags (some es) corpus := rfl
  rw [lexiconFor, lexiconOfEntries, htags, TagSet.ofTags_eq _ hfallback]
  by_cases hnone : TagSet.otherNames (fileTags (some es) corpus) options.fallbackTag = ∅
  · rw [if_pos hnone, if_pos hnone]
  · rw [if_neg hnone, if_neg hnone]

/-- Unless a lexicon file has nothing but the fallback tag, there is a lexicon, and it knows all
tags of the corpus. -/
theorem exists_lexiconFor (hfallback : Text.isBlankText options.fallbackTag = false)
    (hspelled : ∀ tag ∈ fileTags entries corpus, Spelled tag)
    (hcount : (fileTags entries corpus).toFinset.card < tagIdCount)
    (hother : ¬(entries.isSome = true ∧
      ∀ tag ∈ fileTags entries corpus, tag = Text.trim options.fallbackTag)) :
    ∃ lexicon, lexiconFor entries corpus options = .ok lexicon ∧ lexicon.Known ∧
      ∀ entry ∈ corpus.flatten, entry.2 ∈ lexicon.tagSet.names := by
  have hnames := mem_names_of_spelled hfallback hcount hspelled
  cases entries with
  | none =>
    obtain ⟨lexicon, hlexicon⟩ :=
      (TagSet.succeeds_iff (Lexicon.error?_ofCorpus corpus hfallback)).1.mpr fun entry h =>
        hnames _ (List.mem_map_of_mem (Lexicon.mem_flatten_of_mem_guesses h))
    refine ⟨lexicon, hlexicon, (Lexicon.Built.ofCorpus hlexicon).known, fun entry hmem => ?_⟩
    rw [Lexicon.tagSet_of_ofCorpus corpus hfallback hlexicon]
    exact hnames _ (List.mem_map_of_mem hmem)
  | some es =>
    have hsome : TagSet.otherNames (fileTags (some es) corpus) options.fallbackTag ≠ ∅ := fun h =>
      hother ⟨rfl, (otherNames_eq_empty_iff hspelled options.fallbackTag).mp h⟩
    obtain ⟨lexicon, hlexicon, htagSet⟩ := Lexicon.exists_ofEntries (fun entry hmem =>
      hnames _ (List.mem_append_left _ (List.mem_map_of_mem hmem))) options
    have hknown := Lexicon.known_of_ofEntries
      (TagSet.numbered_of_build (TagSet.build_eq _ hfallback)) hlexicon
    rw [lexiconFor_some es hfallback, if_neg hsome]
    refine ⟨lexicon, hlexicon, hknown, fun entry hmem => ?_⟩
    rw [htagSet]
    exact hnames _ (List.mem_append_right _ (List.mem_map_of_mem hmem))

end Lexicon

/-! ### Training -/

/-- Training on what the files of a directory hold: the lexicon of the lexicon file or of the
corpus, and the tagger with the rules that correct it on the corpus. -/
def trainOn (learnerOptions : LearnerOptions) (lexiconOptions : LexiconOptions) (corpus : Corpus)
    (entries : Option (List (String × Tag))) : Except Error Tagger := do
  let lexicon ← lexiconFor entries corpus lexiconOptions
  let learner ← (Learner.ofOptions learnerOptions).mapError .config
  let course ← learner.learn corpus lexicon
  (Tagger.ofRules lexicon course.rules).mapError .config

/-- Why training is refused, if it is: the fallback tag is blank, or there is a lexicon file and
neither file has another tag, or the options of the learner do not pass their check. -/
def refusal? (learnerOptions : LearnerOptions) (lexiconOptions : LexiconOptions) (corpus : Corpus)
    (entries : Option (List (String × Tag))) : Option ConfigError :=
  if Text.isBlankText lexiconOptions.fallbackTag then some .emptyFallbackTag
  else if entries.isSome ∧ ∀ tag ∈ fileTags entries corpus,
      tag = Text.trim lexiconOptions.fallbackTag then some .emptyTagSet
  else error? learnerOptions.check

/-- There is a learner with options that pass their check, and none with others. -/
theorem error?_ofOptions (options : LearnerOptions) :
    error? (Learner.ofOptions options) = error? options.check := by
  rw [Learner.ofOptions]
  split
  · next h => exact (congrArg error? h).symm
  · next e h => exact (congrArg error? h).symm

/-- A check of options never speaks of the numbers of tags. -/
theorem check_ne_unknownTagId (options : LearnerOptions) (index : Nat) (id : TagId) :
    error? options.check ≠ some (.unknownTagId index id) := by
  rw [LearnerOptions.check]
  split
  · simp [error?]
  · split
    · simp [error?]
    · split <;> simp [error?]

theorem refusal?_ne_unknownTagId (learnerOptions : LearnerOptions)
    (lexiconOptions : LexiconOptions) (corpus : Corpus) (entries : Option (List (String × Tag)))
    (index : Nat) (id : TagId) :
    refusal? learnerOptions lexiconOptions corpus entries ≠ some (.unknownTagId index id) := by
  rw [refusal?]
  split
  · simp
  · split
    · simp
    · exact check_ne_unknownTagId learnerOptions index id

/-- Training on files is refused exactly for what is wrong with the options or with a lexicon file,
and succeeds otherwise. -/
theorem error?_trainOn {corpus : Corpus} {entries : Option (List (String × Tag))}
    (hspelled : ∀ tag ∈ fileTags entries corpus, Spelled tag)
    (hcount : (fileTags entries corpus).toFinset.card < tagIdCount)
    (learnerOptions : LearnerOptions) (lexiconOptions : LexiconOptions) :
    error? (trainOn learnerOptions lexiconOptions corpus entries) =
      (refusal? learnerOptions lexiconOptions corpus entries).map .config := by
  rw [trainOn, refusal?]
  split
  · next hblank => rw [lexiconFor_of_isBlankText hblank]; rfl
  · next hfallback =>
    rw [Bool.not_eq_true] at hfallback
    split
    · next hall =>
      obtain ⟨es, rfl⟩ := Option.isSome_iff_exists.mp hall.1
      have hnone := (otherNames_eq_empty_iff hspelled lexiconOptions.fallbackTag).mpr hall.2
      rw [lexiconFor_some es hfallback, if_pos hnone]
      rfl
    · next hother =>
      obtain ⟨lexicon, hlexicon, hknown, hnames⟩ :=
        exists_lexiconFor hfallback hspelled hcount hother
      rw [hlexicon, ← error?_ofOptions]
      cases hlearner : Learner.ofOptions learnerOptions with
      | error e => rfl
      | ok learner =>
        have hlearn := learner.error?_learn corpus lexicon
        rw [TagSet.firstForeign?_eq_none_iff.mpr hnames, Option.map_none] at hlearn
        obtain ⟨course, hcourse⟩ := error?_eq_none_iff.mp hlearn
        obtain ⟨t, ht⟩ := Learner.exists_ofRules hknown hcourse
        simp only [bind, Except.bind, Except.mapError, hcourse, ht]
        rfl

/-! ### Directories -/

section Outcome

variable {α β : Type}

theorem Outcome.result_bind (o : Outcome α) (f : α → Outcome β) :
    (o >>= f).result = o.result >>= fun a => (f a).result := by
  change (Outcome.bind o f).result = _
  rw [Outcome.bind]
  cases o.result <;> rfl

theorem Outcome.result_ofConfig (x : Except ConfigError α) :
    (Outcome.ofConfig x).result = x.mapError .config := by
  cases x <;> rfl

end Outcome

/-- What training reads of a directory: the options of the learner and of the lexicon, the corpus,
and the entries of the lexicon file, if there is one. -/
structure Directory.Reads (d : Directory) (learnerOptions : LearnerOptions)
    (lexiconOptions : LexiconOptions) (corpus : Corpus)
    (entries : Option (List (String × Tag))) : Prop where
  learner : (d.readJsonOr "learner.json" Spanish.learnerOptions).result = .ok learnerOptions
  lexicon : (d.readJsonOr "lexicon.json" Spanish.lexiconOptions).result = .ok lexiconOptions
  corpus : (d.readText "corpus.tsv" >>= (parseCorpus · (d.pathOf "corpus.tsv"))) = .ok corpus
  entries : d.readLexicon.result = .ok entries

/-- A directory is trained on what is read of it. -/
theorem Directory.Reads.result_train {d : Directory} {learnerOptions : LearnerOptions}
    {lexiconOptions : LexiconOptions} {corpus : Corpus} {entries : Option (List (String × Tag))}
    (h : d.Reads learnerOptions lexiconOptions corpus entries) :
    d.train.result = trainOn learnerOptions lexiconOptions corpus entries := by
  obtain ⟨text, htext, hcorpus⟩ := bind_eq_ok_iff.mp h.corpus
  have hok {α β : Type} (a : α) (f : α → Except Error β) : (Except.ok a >>= f) = f a := rfl
  simp only [Directory.train, Outcome.result_bind, Outcome.result_ofConfig, Outcome.info,
    Outcome.ofExcept, h.learner, h.lexicon, htext, hcorpus, h.entries, hok]
  rfl

/-- Training on a corpus file, and on a lexicon file if there is one, is refused for a blank
fallback tag, for a lexicon file if neither file has another tag, and for options that do not pass
the check of the learner; otherwise it gives a tagger. So it never fails for an unknown tag or for
the number of one, also when the files are read from a directory. -/
theorem train_never_unknown {corpusText corpusPath lexiconPath : String} {corpus : Corpus}
    (hcorpus : parseCorpus corpusText corpusPath = .ok corpus) {lexiconText : Option String}
    {entries : Option (List (String × Tag))}
    (hentries : parseLexicon? lexiconPath lexiconText = .ok entries)
    (hcount : (fileTags entries corpus).toFinset.card < tagIdCount)
    (learnerOptions : LearnerOptions) (lexiconOptions : LexiconOptions) :
    error? (trainOn learnerOptions lexiconOptions corpus entries) =
        (refusal? learnerOptions lexiconOptions corpus entries).map .config ∧
      (∀ tag, trainOn learnerOptions lexiconOptions corpus entries ≠ .error (.unknownTag tag)) ∧
      (∀ index id, trainOn learnerOptions lexiconOptions corpus entries ≠
        .error (.config (.unknownTagId index id))) ∧
      ∀ d : Directory, d.Reads learnerOptions lexiconOptions corpus entries →
        d.train.result = trainOn learnerOptions lexiconOptions corpus entries := by
  have herror := error?_trainOn (spelled_of_mem_fileTags hcorpus hentries) hcount learnerOptions
    lexiconOptions
  have hconfig : ∀ e, trainOn learnerOptions lexiconOptions corpus entries = .error e →
      ∃ reason, refusal? learnerOptions lexiconOptions corpus entries = some reason ∧
        .config reason = e := fun e h =>
    Option.map_eq_some_iff.mp (herror.symm.trans (error?_eq_some_iff.mpr h))
  refine ⟨herror, fun tag h => ?_, fun index id h => ?_, fun d hd => hd.result_train⟩
  · obtain ⟨_, -, he⟩ := hconfig _ h
    cases he
  · obtain ⟨_, hrefusal, he⟩ := hconfig _ h
    cases he
    exact refusal?_ne_unknownTagId learnerOptions lexiconOptions corpus entries index id hrefusal

/-- A corpus of one sentence, in which one word has the fallback tag. -/
def oneSentence : String := "# words\na\tn \r\nb\t UNK\n"

/-- A lexicon whose only tag is the fallback tag. -/
def onlyFallback : String := "\nA\tUNK"

/-- A directory with these two files. -/
def twoFiles : Directory where
  path := "build"
  read
    | "corpus.tsv" => .ok oneSentence.toUTF8.toList
    | "lexicon.tsv" => .ok onlyFallback.toUTF8.toList
    | _ => .error .notFound

/-- There is another tag in the corpus, so training succeeds. -/
theorem train_never_unknown_twoFiles :
    parseCorpus oneSentence "build/corpus.tsv" = .ok [[("a", "n"), ("b", "UNK")]] ∧
      parseLexicon? "build/lexicon.tsv" (some onlyFallback) = .ok (some [("A", "UNK")]) ∧
      (fileTags (some [("A", "UNK")]) [[("a", "n"), ("b", "UNK")]]).toFinset.card < tagIdCount ∧
      ∃ t, twoFiles.train.result = .ok t := by
  have hcorpus : parseCorpus oneSentence "build/corpus.tsv" =
      .ok [[("a", "n"), ("b", "UNK")]] := by decide
  have hentries : parseLexicon? "build/lexicon.tsv" (some onlyFallback) =
      .ok (some [("A", "UNK")]) := by decide
  have hcount : (fileTags (some [("A", "UNK")]) [[("a", "n"), ("b", "UNK")]]).toFinset.card <
      tagIdCount := by decide
  have hreads : twoFiles.Reads Spanish.learnerOptions Spanish.lexiconOptions
      [[("a", "n"), ("b", "UNK")]] (some [("A", "UNK")]) :=
    ⟨by decide, by decide, by decide +kernel, by decide +kernel⟩
  obtain ⟨herror, -, -, htrain⟩ := train_never_unknown hcorpus hentries hcount
    Spanish.learnerOptions Spanish.lexiconOptions
  have hnone : refusal? Spanish.learnerOptions Spanish.lexiconOptions [[("a", "n"), ("b", "UNK")]]
      (some [("A", "UNK")]) = none := by decide
  rw [hnone, Option.map_none, ← htrain twoFiles hreads, error?_eq_none_iff] at herror
  exact ⟨hcorpus, hentries, hcount, herror⟩

end Build

end ShallowTransfer
