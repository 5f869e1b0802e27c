import Mathlib.Data.List.Perm.Basic
import ShallowTransfer.Proofs.Tagging.Counts
import ShallowTransfer.Proofs.Tagging.Replay

/-!
Training does not see the order of the sentences, nor that of its tables. The tag set is made of the
tags in ascending order, the words are sorted, and the most frequent tag of each is told by the
counts, so the lexicon is the same (`ofCounts_congr`). Samples in another order have the same errors
and the same candidates, which are sorted, and every candidate the same score; so each round keeps
the same rule (`bestRule_perm`), and the rounds stay in step to the end (`rounds_perm`).
-/

namespace ShallowTransfer

/-- A list in another order is worked off into the results in another order. -/
theorem exists_mapM_of_perm {α β ε : Type} {f : α → Except ε β} {xs xs' : List α} {ys : List β}
    (h : xs.Perm xs') (hok : xs.mapM f = .ok ys) : ∃ ys', xs'.mapM f = .ok ys' ∧ ys'.Perm ys := by
  obtain ⟨ys', hys', hperm⟩ := List.perm_comp_forall₂ h.symm (mapM_eq_ok_iff.mp hok)
  exact ⟨ys', mapM_eq_ok_iff.mpr hys', hperm⟩

namespace Lexicon

/-! ### The lexicon -/

theorem entryLe_iff {a b : String × TagId} : entryLe a b = true ↔
    textBefore a.1 b.1 = true ∨ (a.1 = b.1 ∧ a.2.toNat ≤ b.2.toNat) := by
  simp only [entryLe, Bool.or_eq_true, Bool.and_eq_true, decide_eq_true_eq, Nat.ble_eq]

theorem entryLe_trans (a b c : String × TagId) (hab : entryLe a b = true)
    (hbc : entryLe b c = true) : entryLe a c = true := by
  rw [entryLe_iff] at hab hbc ⊢
  rcases hab with hab | ⟨hab, hle⟩
  · rcases hbc with hbc | ⟨hbc, -⟩
    · exact .inl (textBefore_trans hab hbc)
    · exact .inl (hbc ▸ hab)
  · rcases hbc with hbc | ⟨hbc, hle'⟩
    · exact .inl (hab ▸ hbc)
    · exact .inr ⟨hab.trans hbc, Nat.le_trans hle hle'⟩

theorem entryLe_total (a b : String × TagId) : (entryLe a b || entryLe b a) = true := by
  rw [Bool.or_eq_true, entryLe_iff, entryLe_iff]
  by_cases hword : a.1 = b.1
  · rcases Nat.le_total a.2.toNat b.2.toNat with hle | hle
    · exact .inl (.inr ⟨hword, hle⟩)
    · exact .inr (.inr ⟨hword.symm, hle⟩)
  · cases hbefore : textBefore a.1 b.1 with
    | true => exact .inl (.inl rfl)
    | false => exact .inr (.inl (textBefore_total hword hbefore))

theorem entryLe_antisymm (a b : String × TagId) (hab : entryLe a b = true)
    (hba : entryLe b a = true) : a = b := by
  rw [entryLe_iff] at hab hba
  rcases hab with hab | ⟨hword, hle⟩
  · rcases hba with hba | ⟨hword, -⟩
    · rw [textBefore_asymm hab] at hba
      cases hba
    · rw [hword, textBefore_irrefl] at hab
      cases hab
  · rcases hba with hba | ⟨-, hle'⟩
    · rw [hword, textBefore_irrefl] at hba
      cases hba
    · exact Prod.ext hword (UInt16.toNat_inj.mp (Nat.le_antisymm hle hle'))

/-- The words of a lexicon may be given in any order. -/
theorem ofEntries_perm {tagSet : TagSet} {entries entries' : List (String × Tag)}
    {options : LexiconOptions} {l : Lexicon} (h : entries.Perm entries')
    (hok : ofEntries tagSet entries options = .ok l) :
    ofEntries tagSet entries' options = .ok l := by
  obtain ⟨numbered, hnumbered, hl⟩ := bind_eq_ok_iff.mp hok
  obtain ⟨numbered', hnumbered', hperm⟩ := exists_mapM_of_perm h hnumbered
  have hsort := mergeSort_eq_of_perm entryLe_trans entryLe_total
    (fun a _ b _ => entryLe_antisymm a b) hperm
  refine bind_eq_ok_iff.mpr ⟨numbered', hnumbered', ?_⟩
  rw [hsort]
  exact hl

/-- The words of a table with the most frequent tag of each. -/
def guesses (counts : OrderedMap String (Tally Tag)) : List (String × Tag) :=
  counts.entries.filterMap fun e => (mostFrequent? e.2).map fun t => (e.1, t)

/-- The lexicon that a table of counts shows. -/
def ofCounts (counts : OrderedMap String (Tally Tag)) (options : LexiconOptions) :
    Except Error Lexicon :=
  match TagSet.build (counts.entries.flatMap fun e => e.2.keys) options.fallbackTag with
  | .error e => .error (.config e)
  | .ok tagSet => ofEntries tagSet (guesses counts) options

/-- The lexicon of a corpus is that of its table. -/
theorem ofCorpus_eq (corpus : Corpus) (options : LexiconOptions) :
    ofCorpus corpus options = ofCounts (tagCounts corpus) options := by
  cases h : TagSet.build ((tagCounts corpus).entries.flatMap fun e => e.2.keys)
      options.fallbackTag with
  | error e => simp only [ofCorpus, ofCounts, h]
  | ok tagSet => simp only [ofCorpus, ofCounts, h, guesses]

section Tallied

variable {counts counts' : OrderedMap String (Tally Tag)} {entries : List (String × Tag)}

theorem Tallied.mem_tags (h : Tallied counts entries) (tag : Tag) :
    tag ∈ counts.entries.flatMap (fun e => e.2.keys) ↔ ∃ word, (word, tag) ∈ entries := by
  rw [List.mem_flatMap]
  constructor
  · rintro ⟨e, he, htag⟩
    obtain ⟨⟨_, n⟩, hn, rfl⟩ := List.mem_map.mp htag
    exact ⟨e.1, mem_tagsOf.mp (((h.tallies e he).mem_entries _ n).mp hn).1⟩
  · rintro ⟨word, hword⟩
    have hkey := (h.mem_keys word).mpr (List.mem_map.mpr ⟨_, hword, rfl⟩)
    obtain ⟨e, he, rfl⟩ := List.mem_map.mp hkey
    have hn := ((h.tallies e he).mem_entries tag _).mpr ⟨mem_tagsOf.mpr hword, rfl⟩
    exact ⟨e, he, List.mem_map.mpr ⟨_, hn, rfl⟩⟩

theorem Tallied.mem_guesses (h : Tallied counts entries) (word : String) (tag : Tag) :
    (word, tag) ∈ guesses counts ↔ MostFrequent (tagsOf entries word) tag := by
  rw [guesses, List.mem_filterMap]
  constructor
  · rintro ⟨e, he, hguess⟩
    obtain ⟨t, ht, heq⟩ := Option.map_eq_some_iff.mp hguess
    obtain ⟨rfl, rfl⟩ := Prod.mk.inj heq
    exact (mostFrequent?_eq_some_iff (h.tallies e he)).mp ht
  · intro hbest
    have hkey := (h.mem_keys word).mpr (List.mem_map.mpr ⟨_, mem_tagsOf.mp hbest.mem, rfl⟩)
    obtain ⟨e, he, rfl⟩ := List.mem_map.mp hkey
    refine ⟨e, he, ?_⟩
    rw [(mostFrequent?_eq_some_iff (h.tallies e he)).mpr hbest, Option.map_some]

/-- Every word is guessed once. -/
theorem Tallied.nodup_map_fst_guesses (h : Tallied counts entries) :
    ((guesses counts).map Prod.fst).Nodup := by
  rw [guesses, List.Nodup, List.pairwise_map, List.pairwise_filterMap]
  refine (List.pairwise_map.mp h.nodup).imp fun {e e'} hne a ha a' ha' heq => hne ?_
  obtain ⟨t, -, rfl⟩ := Option.map_eq_some_iff.mp ha
  obtain ⟨t', -, rfl⟩ := Option.map_eq_some_iff.mp ha'
  exact heq

theorem Tallied.nodup_guesses (h : Tallied counts entries) : (guesses counts).Nodup :=
  h.nodup_map_fst_guesses.of_map

/-- Tables of the same words with the same counts show the same lexicon. -/
theorem ofCounts_congr {options : LexiconOptions} {l : Lexicon} (h : Tallied counts entries)
    (h' : Tallied counts' entries) (hok : ofCounts counts options = .ok l) :
    ofCounts counts' options = .ok l := by
  have hperm : (guesses counts).Perm (guesses counts') := by
    rw [List.perm_ext_iff_of_nodup h.nodup_guesses h'.nodup_guesses]
    rintro ⟨word, tag⟩
    rw [h.mem_guesses, h'.mem_guesses]
  have htags := TagSet.build_congr (fun t => (h'.mem_tags t).trans (h.mem_tags t).symm)
    options.fallbackTag
  rw [ofCounts, htags]
  unfold ofCounts at hok
  split at hok
  · cases hok
  · exact ofEntries_perm hperm hok

end Tallied

end Lexicon

/-! ### Candidates -/

theorem Template.index_injective {t u : Template} (h : t.index = u.index) : t = u := by
  cases t <;> cases u <;> simp [index] at h ⊢

/-- A condition is told by its list of numbers. -/
theorem Context.eq_of_key_eq {c d : Context} (h : c.key = d.key) : c = d := by
  have htemplate : c.template = d.template := Template.index_injective (List.cons.inj h).1
  have hrest := (List.cons.inj h).2
  clear h
  cases c <;> cases d <;> simp only [template, reduceCtorEq] at htemplate
  case prevWord.prevWord => rw [codePoints_injective hrest]
  case nextWord.nextWord => rw [codePoints_injective hrest]
  case currentWord.currentWord => rw [codePoints_injective hrest]
  all_goals simpa [tagIds, UInt16.toNat_inj] using hrest

/-- A candidate is told by its list of numbers. -/
theorem Candidate.eq_of_key_eq {a b : Candidate} (h : a.key = b.key) : a = b := by
  obtain ⟨rank, source, target, context⟩ := a
  obtain ⟨rank', source', target', context'⟩ := b
  simp only [key, TransformRule.key, List.cons.injEq, UInt16.toNat_inj] at h
  obtain ⟨rfl, rfl, rfl, hcontext⟩ := h
  rw [Context.eq_of_key_eq hcontext]

section Samples

variable {samples samples' : List Sample}

theorem allSites_perm (h : samples.Perm samples') : (allSites samples).Perm (allSites samples') :=
  h.flatMap_right _

theorem errorCount_perm (h : samples.Perm samples') : errorCount samples = errorCount samples' :=
  (allSites_perm h).countP_eq _

/-- The sorted candidates do not depend on the order of the samples. -/
theorem candidates_perm (templates : List Template) {sites sites' : List Site}
    (h : sites.Perm sites') :
    (Candidate.all templates sites).mergeSort Candidate.le =
      (Candidate.all templates sites').mergeSort Candidate.le := by
  refine mergeSort_eq_of_perm (fun a b c => lexLe_trans a.key b.key c.key)
    (fun a b => lexLe_total a.key b.key) (fun a _ b _ hab hba => ?_) ((h.filter _).flatMap_right _)
  exact Candidate.eq_of_key_eq (lexLe_antisymm a.key b.key hab hba)

/-- The best rule does not depend on the order of the samples. -/
theorem bestRule_perm (templates : List Template) (h : samples.Perm samples') :
    bestRule templates samples = bestRule templates samples' := by
  have hsites := allSites_perm h
  have hrival : rival (allSites samples) = rival (allSites samples') := by
    funext best r
    rw [rival, rival, scoreOn_perm hsites]
  rw [bestRule_eq_foldl_rival, bestRule_eq_foldl_rival, candidates_perm templates hsites, hrival]

end Samples

namespace Learner

/-! ### Rounds in step -/

variable (l : Learner)

theorem nextRule?_perm {samples samples' : List Sample} (learned : Nat)
    (h : samples.Perm samples') : l.nextRule? learned samples = l.nextRule? learned samples' := by
  rw [nextRule?, nextRule?, errorCount_perm h, bestRule_perm _ h]

/-- The same rules are kept, round by round. -/
theorem rounds_perm : ∀ (fuel learned : Nat) {samples samples' : List Sample},
    samples.Perm samples' → l.rounds fuel learned samples = l.rounds fuel learned samples'
  | 0, _, _, _, _ => rfl
  | fuel + 1, learned, samples, samples', h => by
    rw [rounds, rounds, l.nextRule?_perm learned h]
    split
    · rfl
    · next rule score _ =>
      have hnext := h.map (Sample.apply rule)
      dsimp only
      rw [errorCount_perm hnext, rounds_perm fuel (learned + 1) hnext]

theorem study_perm {samples samples' : List Sample} (h : samples.Perm samples') :
    l.study samples = l.study samples' := by
  rw [study, study, (allSites_perm h).length_eq, errorCount_perm h, l.rounds_perm _ _ h]

/-- The course of learning does not depend on the order of the sentences. -/
theorem learn_perm {corpus corpus' : Corpus} {lexicon : Lexicon} {course : Course}
    (h : corpus.Perm corpus') (hok : l.learn corpus lexicon = .ok course) :
    l.learn corpus' lexicon = .ok course := by
  obtain ⟨samples, hsamples, hcourse⟩ := bind_eq_ok_iff.mp hok
  obtain ⟨samples', hsamples', hperm⟩ := exists_mapM_of_perm h hsamples
  refine bind_eq_ok_iff.mpr ⟨samples', hsamples', ?_⟩
  rw [l.study_perm hperm]
  exact hcourse

end Learner

/-! ### Tables in other orders -/

namespace Survey

/-- Surveys with the same counts and, under every tag, the same places in whatever order. -/
structure Same (survey survey' : Survey) : Prop where
  confusions : ∀ tags, survey.confusions.get? tags = survey'.confusions.get? tags
  places : ∀ tag, Option.Rel List.Perm (survey.places.get? tag) (survey'.places.get? tag)

/-- A candidate is tried in the same way with the same survey. -/
theorem Same.challenge_eq {survey survey' : Survey} (h : survey.Same survey') :
    survey.challenge = survey'.challenge := by
  funext best c
  have hplaces := h.places c.rule.source
  rw [challenge, challenge, h.confusions]
  generalize survey.places.get? c.rule.source = places at hplaces ⊢
  generalize survey'.places.get? c.rule.source = places' at hplaces ⊢
  cases hplaces with
  | none => rfl
  | some hperm =>
    cases survey'.confusions.get? (c.rule.source, c.rule.target) with
    | none => rfl
    | some bound => simp only [scoreOn_perm hperm]

end Survey

namespace Learner

variable (l : Learner)

/-- Training with a table of counts made beforehand. -/
def trainFrom (counts : OrderedMap String (Lexicon.Tally Tag)) (corpus : Corpus)
    (options : LexiconOptions) : Except Error Tagger := do
  let lexicon ← Lexicon.ofCounts counts options
  let course ← l.learn corpus lexicon
  match Tagger.ofRules lexicon course.rules with
  | .ok tagger => .ok tagger
  | .error e => .error (.config e)

/-- Training counts the words of its corpus first. -/
theorem train_eq (corpus : Corpus) (options : LexiconOptions) :
    l.train corpus options = l.trainFrom (Lexicon.tagCounts corpus) corpus options :=
  congrArg₂ (· >>= ·) (Lexicon.ofCorpus_eq corpus options) rfl

theorem trainFrom_perm {counts counts' : OrderedMap String (Lexicon.Tally Tag)}
    {entries : List (String × Tag)} {corpus corpus' : Corpus} {options : LexiconOptions}
    {tagger : Tagger} (hcounts : Lexicon.Tallied counts entries)
    (hcounts' : Lexicon.Tallied counts' entries) (h : corpus.Perm corpus')
    (hok : l.trainFrom counts corpus options = .ok tagger) :
    l.trainFrom counts' corpus' options = .ok tagger := by
  obtain ⟨lexicon, hlexicon, hok⟩ := bind_eq_ok_iff.mp hok
  obtain ⟨course, hcourse, htagger⟩ := bind_eq_ok_iff.mp hok
  refine bind_eq_ok_iff.mpr ⟨lexicon, Lexicon.ofCounts_congr hcounts hcounts' hlexicon, ?_⟩
  exact bind_eq_ok_iff.mpr ⟨course, l.learn_perm h hcourse, htagger⟩

/-- Training on the same sentences in another order either fails too or gives the same tagger; so
does training with a table of counts that has its words and their tags in another order. Nor does
the search for the best rule depend on the order of the survey that it looks its numbers up in. -/
theorem train_perm {corpus corpus' : Corpus} (options : LexiconOptions) (h : corpus.Perm corpus') :
    (∀ tagger, l.train corpus options = .ok tagger ↔ l.train corpus' options = .ok tagger) ∧
      (∀ counts, Lexicon.Tallied counts corpus.flatten → ∀ tagger,
        l.trainFrom counts corpus' options = .ok tagger ↔ l.train corpus options = .ok tagger) ∧
      ∀ samples survey, Survey.Same survey (Survey.ofSites (allSites samples)) →
        ((Candidate.all l.options.templates (allSites samples)).mergeSort Candidate.le).foldl
          survey.challenge none = bestRule l.options.templates samples := by
  have hcounts := Lexicon.tallied_tagCounts corpus
  have hcounts' := (Lexicon.tallied_tagCounts corpus').perm h.symm.flatten
  refine ⟨fun tagger => ?_, fun counts htallied tagger => ?_, fun samples survey hsame => ?_⟩
  · rw [train_eq, train_eq]
    exact ⟨l.trainFrom_perm hcounts hcounts' h, l.trainFrom_perm hcounts' hcounts h.symm⟩
  · rw [train_eq]
    exact ⟨l.trainFrom_perm htallied hcounts h.symm, l.trainFrom_perm hcounts htallied h⟩
  · rw [hsame.challenge_eq]
    rfl

/-- A word that is a noun more often than a verb, which it is first. -/
def fourSentences : Corpus := [[("b", "v")], [("b", "n"), ("b", "v")], [("b", "n")], [("b", "n")]]

/-- The four sentences the other way round make another table, and the same tagger. -/
theorem train_perm_fourSentences :
    Lexicon.tagCounts fourSentences ≠ Lexicon.tagCounts fourSentences.reverse ∧
      ∃ tagger, (prevTagLearner 1 (by decide)).train fourSentences .default = .ok tagger ∧
        (prevTagLearner 1 (by decide)).train fourSentences.reverse .default = .ok tagger ∧
        (prevTagLearner 1 (by decide)).trainFrom (Lexicon.tagCounts fourSentences.reverse)
          fourSentences .default = .ok tagger ∧
        tagger.lexicon = ⟨⟨["UNK", "n", "v"]⟩, ⟨[("b", 1)]⟩, .default⟩ ∧
        tagger.rules = ⟨[⟨1, 2, .prevTag 1⟩]⟩ := by
  have htrain : ((prevTagLearner 1 (by decide)).train fourSentences .default).map
      (fun tagger => (tagger.lexicon, tagger.rules)) =
        .ok (⟨⟨["UNK", "n", "v"]⟩, ⟨[("b", 1)]⟩, .default⟩, ⟨[⟨1, 2, .prevTag 1⟩]⟩) := by
    decide +kernel
  obtain ⟨tagger, hok, hparts⟩ := map_eq_ok_iff.mp htrain
  obtain ⟨hlexicon, hrules⟩ := Prod.mk.inj hparts
  have hreverse := List.reverse_perm fourSentences
  obtain ⟨hsame, -, -⟩ := train_perm (prevTagLearner 1 (by decide)) .default hreverse.symm
  obtain ⟨-, htable, -⟩ :=
    train_perm (prevTagLearner 1 (by decide)) .default (List.Perm.refl fourSentences)
  have htallied := (Lexicon.tallied_tagCounts fourSentences.reverse).perm hreverse.flatten
  refine ⟨by decide, tagger, hok, (hsame tagger).mp hok, ?_, hlexicon, hrules⟩
  exact (htable _ htallied tagger).mpr hok

end Learner

end ShallowTransfer
