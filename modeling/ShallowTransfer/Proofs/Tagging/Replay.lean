import Mathlib.Algebra.GroupWithZero.Nat
import ShallowTransfer.Proofs.Tagging.KnownTags

/-!
The tagger replays the learner. On a sentence of the corpus the tagger starts from the same first
guesses as the learner and applies the same rules, so it ends with the tags of the learner's sample;
and as tags and numbers determine each other, a word is tagged wrongly by name exactly where it is
by number. Main statements: every further rule takes its net score off the errors of the tagger
(`errors_fall_by_net`), and a learner that has room for more rules stops only when no rule is worth
keeping (`no_rule_worth_keeping`).
-/

namespace ShallowTransfer

/-! ### What a tagger gets wrong -/

/-- The words of a tagged sentence that a tagger gives another tag than they have there. -/
def Tagger.mistakes (t : Tagger) (sentence : List (String × Tag)) : Nat :=
  ((t.tag (tokensFrom (sentence.map (·.1)))).zip sentence).countP fun e => e.1.tag ≠ e.2.2

/-- The words of a corpus that a tagger gives another tag than they have there. -/
def Tagger.errors (t : Tagger) (corpus : Corpus) : Nat :=
  (corpus.map t.mistakes).sum

/-- The tokens of words have these words. -/
theorem map_text_tokensFrom (words : List String) : (tokensFrom words).map Token.text = words := by
  rw [tokensFrom, List.map_map]
  exact List.zipIdx_map_fst 0 words

namespace Tagging

/-- A sentence of `n` words, each with a tag and an origin. -/
structure Aligned (n : Nat) (t : Tagging) : Prop where
  seen : t.seen.length = n
  origins : t.origins.length = n

/-- The first guesses are one for each word. -/
theorem aligned_initial (lexicon : Lexicon) (words : List String) :
    (initial lexicon words).Aligned words.length := by
  refine ⟨?_, ?_⟩
  · rw [Sample.seen_initial, List.length_map]
  · rw [initial, List.length_map, List.length_map]

/-- A rule keeps the words. -/
theorem Aligned.step {n : Nat} {t : Tagging} (h : t.Aligned n) (rule : TransformRule × Nat) :
    (t.step rule).Aligned n := by
  have hviews : (views t.seen).length = n := (length_viewsAfter [] t.seen).trans h.seen
  refine ⟨?_, ?_⟩
  · rw [Tagging.step, TransformRule.apply, List.length_map, hviews]
  · rw [Tagging.step, List.length_zipWith, hviews, h.origins, Nat.min_self]

/-- Rules keep the words. -/
theorem Aligned.foldl_step {n : Nat} {t : Tagging} (h : t.Aligned n)
    (rules : List (TransformRule × Nat)) : (rules.foldl Tagging.step t).Aligned n := by
  induction rules generalizing t with
  | nil => exact h
  | cons r rest ih => exact ih (h.step r)

/-- The words of a sentence as rules see them, with where their tags come from. -/
def row (t : Tagging) : List (Seen × Origin) :=
  t.seen.zip t.origins

theorem map_fst_row {t : Tagging} {n : Nat} (h : t.Aligned n) : t.row.map Prod.fst = t.seen :=
  List.map_fst_zip (Nat.le_of_eq (h.seen.trans h.origins.symm))

theorem length_row {t : Tagging} {n : Nat} (h : t.Aligned n) : t.row.length = n := by
  rw [row, List.length_zip, h.seen, h.origins, Nat.min_self]

/-- The finished tokens have the tags and the origins of the words. -/
theorem map_finish {t : Tagging} {tokens : List Token} (h : t.Aligned tokens.length)
    (s : TagSet) : (t.finish s tokens).map (fun x => (x.tag, x.origin)) =
      t.row.map fun e => (s.nameOrFallback e.1.tag, e.2) := by
  calc (t.finish s tokens).map (fun x => (x.tag, x.origin))
      = ((tokens.zip t.row).map Prod.snd).map fun e => (s.nameOrFallback e.1.tag, e.2) := by
        rw [finish, List.map_map, List.map_map]
        rfl
    _ = t.row.map fun e => (s.nameOrFallback e.1.tag, e.2) := by
        rw [List.map_snd_zip (Nat.le_of_eq (length_row h))]

/-- The tags of the finished tokens are those of the words. -/
theorem map_tag_finish {t : Tagging} {tokens : List Token} (h : t.Aligned tokens.length)
    (s : TagSet) : (t.finish s tokens).map TaggedToken.tag =
      t.seen.map fun x => s.nameOrFallback x.tag := by
  calc (t.finish s tokens).map TaggedToken.tag
      = ((t.finish s tokens).map fun x => (x.tag, x.origin)).map Prod.fst := by
        rw [List.map_map]
        rfl
    _ = (t.row.map Prod.fst).map fun x => s.nameOrFallback x.tag := by
        rw [map_finish h, List.map_map, List.map_map]
        rfl
    _ = t.seen.map fun x => s.nameOrFallback x.tag := by rw [map_fst_row h]

/-- The finished tokens are the given ones. -/
theorem map_token_finish {t : Tagging} {tokens : List Token} (h : t.Aligned tokens.length)
    (s : TagSet) : (t.finish s tokens).map TaggedToken.token = tokens := by
  calc (t.finish s tokens).map TaggedToken.token
      = (tokens.zip t.row).map Prod.fst := by
        rw [finish, List.map_map]
        rfl
    _ = tokens := List.map_fst_zip (Nat.le_of_eq (length_row h).symm)

end Tagging

/-- A run of a tagger has a word for every token. -/
theorem Tagger.aligned_run (t : Tagger) (tokens : List Token)
    (rules : List (TransformRule × Nat)) : (t.run tokens rules).Aligned tokens.length := by
  have h := Tagging.aligned_initial t.lexicon (tokens.map Token.text)
  rw [List.length_map] at h
  exact h.foldl_step rules

/-- A tagger keeps the tokens. -/
theorem Tagger.map_token_tag (t : Tagger) (tokens : List Token) :
    (t.tag tokens).map TaggedToken.token = tokens :=
  Tagging.map_token_finish (t.aligned_run tokens t.indexedRules) t.tagSet

/-- The words of a tagger after its rules are those of the sample after these rules. -/
theorem Tagger.seen_run (t : Tagger) {sentence : List (String × Tag)} {s : Sample}
    (hs : Sample.ofSentence t.lexicon sentence = .ok s) :
    (t.run (tokensFrom (sentence.map (·.1))) t.indexedRules).seen =
      (s.after t.rules.rules).seen := by
  have hfold : ∀ (rules : List (TransformRule × Nat)) (g : Tagging) (s : Sample),
      g.seen = s.seen →
        (rules.foldl Tagging.step g).seen = (s.after (rules.map (·.1))).seen := by
    intro rules
    induction rules with
    | nil => exact fun _ _ h => h
    | cons r rest ih =>
      intro g s h
      refine ih (g.step r) (s.apply r.1) ?_
      rw [Tagging.step, Sample.apply, h]
  have hstart : (t.start (tokensFrom (sentence.map (·.1)))).seen = s.seen := by
    rw [Tagger.start, map_text_tokensFrom, (Sample.ofSentence_eq_ok hs).1]
  have h := hfold t.indexedRules _ s hstart
  rwa [Tagger.indexedRules, List.zipIdx_map_fst] at h

/-! ### Wrong by name and by number -/

/-- Known tags are wrong by their names exactly where they are wrong by their numbers. -/
theorem countP_names {tagSet : TagSet} (ht : tagSet.Numbered) {sentence : List (String × Tag)}
    {gold : List TagId}
    (hgold : List.Forall₂ (fun entry g => tagSet.id? entry.2 = some g) sentence gold) :
    ∀ {seen : List Seen}, (∀ x ∈ seen, tagSet.contains x.tag = true) →
      ((seen.map fun x => tagSet.nameOrFallback x.tag).zip sentence).countP (fun e => e.1 ≠ e.2.2) =
        (seen.zip gold).countP fun e => e.1.tag ≠ e.2 := by
  induction hgold with
  | nil => intro seen _; rw [List.zip_nil_right, List.zip_nil_right]; rfl
  | @cons entry g sentence gold hg _ ih =>
    intro seen hseen
    cases seen with
    | nil => rfl
    | cons x rest =>
      obtain ⟨hx, hrest⟩ := List.forall_mem_cons.mp hseen
      have hiff := TagSet.nameOrFallback_eq_iff ht hx hg
      rw [List.map_cons, List.zip_cons_cons, List.zip_cons_cons, List.countP_cons,
        List.countP_cons, ih hrest]
      simp only [ne_eq, hiff]

/-- The errors of a sample are the words whose tag is not the one it should have. -/
theorem Sample.countP_sites (s : Sample) :
    s.sites.countP Site.isWrong = (s.seen.zip s.gold).countP fun e => e.1.tag ≠ e.2 := by
  have h : s.sites.map (fun p => (p.view.here, p.gold)) = s.seen.zip s.gold := by
    have hhere : (views s.seen).map View.here = s.seen := map_here_viewsAfter [] s.seen
    rw [Sample.sites, List.map_zipWith]
    conv_rhs => rw [← hhere, List.zip, List.zipWith_map_left]
  rw [← h, List.countP_map]
  rfl

/-- The sample after rules has the same right tags. -/
theorem Sample.gold_after (rules : List TransformRule) (s : Sample) :
    (s.after rules).gold = s.gold := by
  induction rules generalizing s with
  | nil => rfl
  | cons r rest ih => exact ih (s.apply r)

/-- Rules with known targets leave known tags. -/
theorem Sample.Known.after {tagSet : TagSet} {rules : List TransformRule}
    (hr : ∀ r ∈ rules, tagSet.contains r.target = true) {s : Sample} (h : s.Known tagSet) :
    (s.after rules).Known tagSet := by
  induction rules generalizing s with
  | nil => exact h
  | cons r rest ih =>
    obtain ⟨hr, hrest⟩ := List.forall_mem_cons.mp hr
    exact ih hrest (h.apply hr)

/-- On a sentence of the corpus a tagger makes the mistakes that its rules leave in the sample. -/
theorem Tagger.mistakes_eq {t : Tagger} (hl : t.lexicon.Known)
    (hr : ∀ r ∈ t.rules.rules, t.lexicon.tagSet.contains r.target = true)
    {sentence : List (String × Tag)} {s : Sample}
    (hs : Sample.ofSentence t.lexicon sentence = .ok s) :
    t.mistakes sentence = (s.after t.rules.rules).sites.countP Site.isWrong := by
  have hknown := (Sample.known_ofSentence hl hs).after hr
  have haligned := t.aligned_run (tokensFrom (sentence.map (·.1))) t.indexedRules
  have htags : (t.tag (tokensFrom (sentence.map (·.1)))).map TaggedToken.tag =
      (s.after t.rules.rules).seen.map fun x => t.lexicon.tagSet.nameOrFallback x.tag := by
    rw [Tagger.tag, Tagging.map_tag_finish haligned, Tagger.seen_run t hs]
    rfl
  calc t.mistakes sentence
      = (((t.tag (tokensFrom (sentence.map (·.1)))).map TaggedToken.tag).zip sentence).countP
          fun e => e.1 ≠ e.2.2 := by
        rw [Tagger.mistakes, List.zip_map_left, List.countP_map]
        rfl
    _ = ((s.after t.rules.rules).seen.zip s.gold).countP fun e => e.1.tag ≠ e.2 := by
        rw [htags]
        exact countP_names hl.numbered (Sample.ofSentence_eq_ok hs).2 hknown.seen
    _ = (s.after t.rules.rules).sites.countP Site.isWrong := by
        rw [Sample.countP_sites, Sample.gold_after]

/-- On the corpus a tagger makes the errors that its rules leave in the samples. -/
theorem Tagger.errors_eq {t : Tagger} (hl : t.lexicon.Known)
    (hr : ∀ r ∈ t.rules.rules, t.lexicon.tagSet.contains r.target = true) {corpus : Corpus}
    {samples : List Sample} (hs : corpus.mapM (Sample.ofSentence t.lexicon) = .ok samples) :
    t.errors corpus = errorCount (samplesAfter t.rules.rules samples) := by
  have h := mapM_eq_ok_iff.mp hs
  clear hs
  induction h with
  | nil => rfl
  | @cons sentence s corpus samples hs _ ih =>
    rw [samplesAfter, List.map_cons, errorCount_cons, ← Tagger.mistakes_eq hl hr hs]
    rw [samplesAfter] at ih
    rw [← ih, Tagger.errors, List.map_cons, List.sum_cons]
    rfl

/-! ### Learning -/

/-- The first rules of a course make a tagger that fits the lexicon and makes the errors that the
course counts. -/
theorem Learner.exists_tagger {lexicon : Lexicon} (hl : lexicon.Known) {l : Learner}
    {corpus : Corpus} {samples : List Sample}
    (hs : corpus.mapM (Sample.ofSentence lexicon) = .ok samples) {k : Nat}
    (hk : k ≤ (l.study samples).lessons.length) :
    ∃ t, Tagger.ofRules lexicon ⟨(l.study samples).rules.rules.take k⟩ = .ok t ∧
      t.errors corpus = (l.study samples).errorsAfter k := by
  have hsamples : ∀ s ∈ samples, s.Known lexicon.tagSet := fun s hmem => by
    obtain ⟨sentence, -, hsentence⟩ := exists_of_mem_forall₂ (mapM_eq_ok_iff.mp hs) hmem
    exact Sample.known_ofSentence hl hsentence
  have hids : ∀ r ∈ (l.study samples).rules.rules.take k, ∀ id ∈ r.tagIds,
      lexicon.tagSet.contains id = true := fun r hr => by
    obtain ⟨lesson, hlesson, rfl⟩ := List.mem_map.mp (List.mem_of_mem_take hr)
    exact (Learner.run_study l samples).contains hsamples lesson hlesson
  refine ⟨_, Tagger.ofRules_eq_ok (RuleList.check_eq_ok hids), ?_⟩
  have htargets : ∀ r ∈ (l.study samples).rules.rules.take k,
      lexicon.tagSet.contains r.target = true := fun r hr =>
    hids r hr _ r.target_mem_tagIds
  rw [Learner.errorsAfter_study hk, List.map_take]
  exact Tagger.errors_eq hl htargets hs

/-- All rules of a course make a tagger that fits the lexicon. -/
theorem Learner.exists_ofRules {lexicon : Lexicon} (hl : lexicon.Known) {l : Learner}
    {corpus : Corpus} {course : Course} (h : l.learn corpus lexicon = .ok course) :
    ∃ t, Tagger.ofRules lexicon course.rules = .ok t := by
  obtain ⟨samples, hs, rfl⟩ := Learner.learn_eq_ok h
  obtain ⟨t, ht, -⟩ := Learner.exists_tagger hl hs (Nat.le_refl (l.study samples).lessons.length)
  have hall : (l.study samples).rules.rules.take (l.study samples).lessons.length =
      (l.study samples).rules.rules := List.take_of_length_le (Nat.le_of_eq (List.length_map _))
  rw [hall] at ht
  exact ⟨t, ht⟩

/-- Every further rule takes its net score on the samples as the rules before it leave them, which
is at least one, off the errors of the tagger; the learner counts the same errors. So there are at
most as many rules as errors at first, and at most as many as there may be. -/
theorem errors_fall_by_net {lexicon : Lexicon} (hl : lexicon.Built) {l : Learner} {corpus : Corpus}
    {course : Course} (h : l.learn corpus lexicon = .ok course) :
    ∃ samples, corpus.mapM (Sample.ofSentence lexicon) = .ok samples ∧
      (∀ k ≤ course.lessons.length,
        ∃ t, Tagger.ofRules lexicon ⟨course.rules.rules.take k⟩ = .ok t ∧
          t.errors corpus = course.errorsAfter k) ∧
      (∀ k lesson, course.lessons[k]? = some lesson →
        lesson.score =
            lesson.rule.scoreOn (allSites (samplesAfter (course.rules.rules.take k) samples)) ∧
          1 ≤ lesson.score.net ∧
          (course.errorsAfter (k + 1) : Int) = course.errorsAfter k - lesson.score.net) ∧
      course.lessons.length ≤ l.options.maxRules.toNat ∧
      course.lessons.length ≤ course.initialErrors := by
  obtain ⟨samples, hs, rfl⟩ := Learner.learn_eq_ok h
  have hrun := Learner.run_study l samples
  refine ⟨samples, hs, fun k hk => Learner.exists_tagger hl.known hs hk, ?_, ?_, ?_⟩
  · intro k lesson hk
    have hlt : k < (l.study samples).lessons.length := (List.getElem?_eq_some_iff.mp hk).1
    obtain ⟨hscore, hpos, herrors⟩ := Learner.net_of_nextRule? (hrun.nextRule?_lesson hk).1
    have hnext : ((l.study samples).lessons.take (k + 1)).map Lesson.rule =
        ((l.study samples).lessons.take k).map Lesson.rule ++ [lesson.rule] := by
      rw [List.take_add_one, hk, List.map_append]
      rfl
    refine ⟨?_, hpos, ?_⟩
    · rw [hscore, Course.rules, List.map_take]
    · rw [Learner.errorsAfter_study hlt, Learner.errorsAfter_study (Nat.le_of_lt hlt), hnext,
        samplesAfter_concat]
      exact herrors
  · have hroom := hrun.length_add_le (Nat.zero_le _)
    rwa [Nat.zero_add] at hroom
  · exact hrun.length_le_errorCount

/-- A word that is a verb behind the word of another tag, and a noun elsewhere. -/
def twoSentences : Corpus := [[("a", "x"), ("b", "v")], [("b", "n")]]

/-- A lexicon that knows one of the words, as a noun. -/
def oneWord : Lexicon := ⟨⟨["x", "n", "v"]⟩, ⟨[("b", 1)]⟩, .default⟩

/-- A learner that looks at the previous tag and asks for rules of some score. -/
def prevTagLearner (minScore : UInt64) (h : minScore ≠ 0) : Learner :=
  ⟨⟨[.prevTag], minScore, 5⟩, by simp [LearnerOptions.check, firstRepeated, h]⟩

theorem oneWord_built : oneWord.Built := by
  have hbuild : TagSet.build ["n", "v"] "x" = .ok oneWord.tagSet := by decide
  have hentries : Lexicon.ofEntries oneWord.tagSet [("b", "n")] .default = .ok oneWord := by
    decide +kernel
  exact .ofEntries (.ofBuild hbuild) hentries

theorem learn_twoSentences : (prevTagLearner 1 (by decide)).learn twoSentences oneWord =
    .ok ⟨3, 1, [⟨⟨1, 2, .prevTag 0⟩, ⟨1, 0⟩, 0⟩]⟩ := by
  decide +kernel

theorem errors_fall_by_net_twoSentences :
    (∃ t, Tagger.ofRules oneWord ⟨[]⟩ = .ok t ∧ t.errors twoSentences = 1) ∧
      ∃ t, Tagger.ofRules oneWord ⟨[⟨1, 2, .prevTag 0⟩]⟩ = .ok t ∧ t.errors twoSentences = 0 := by
  obtain ⟨samples, -, htaggers, -⟩ := errors_fall_by_net oneWord_built learn_twoSentences
  exact ⟨htaggers 0 (by decide), htaggers 1 (by decide)⟩

/-- When the learner stops with room for more rules, no rule for one of its templates takes as many
errors off the corpus as are asked for, whether it was a candidate or not. Conditions on one of two
previous tags are left out: their template looks at the nearer tag only. -/
theorem no_rule_worth_keeping {lexicon : Lexicon} {l : Learner} {corpus : Corpus} {course : Course}
    (h : l.learn corpus lexicon = .ok course)
    (hroom : course.lessons.length < l.options.maxRules.toNat) :
    ∃ samples, corpus.mapM (Sample.ofSentence lexicon) = .ok samples ∧
      ∀ r : TransformRule, r.source ≠ r.target → r.context.template ∈ l.options.templates →
        r.context.template ≠ .prevOrPrevTwoTag →
          errorCount (samplesAfter course.rules.rules samples) <
            errorCount ((samplesAfter course.rules.rules samples).map (Sample.apply r)) +
              l.options.minScore.toNat := by
  obtain ⟨samples, hs, rfl⟩ := Learner.learn_eq_ok h
  refine ⟨samples, hs, fun r hr ht hc => ?_⟩
  have hend := (Learner.run_study l samples).nextRule?_end
  rw [Nat.zero_add] at hend
  exact Learner.errorCount_lt_of_nextRule?_eq_none hend hroom l.minScore_ne_zero hr ht hc

/-- A learner that asks for two errors less keeps no rule, and the best rule takes off one. -/
theorem no_rule_worth_keeping_twoSentences :
    ∃ samples, twoSentences.mapM (Sample.ofSentence oneWord) = .ok samples ∧
      errorCount samples < errorCount (samples.map (Sample.apply ⟨1, 2, .prevTag 0⟩)) + 2 := by
  have hlearn : (prevTagLearner 2 (by decide)).learn twoSentences oneWord = .ok ⟨3, 1, []⟩ := by
    decide +kernel
  obtain ⟨samples, hs, hbest⟩ := no_rule_worth_keeping hlearn (by decide)
  refine ⟨samples, hs, ?_⟩
  have h := hbest ⟨1, 2, .prevTag 0⟩ (by decide) (by decide) (by decide)
  rwa [Course.rules, List.map_nil, samplesAfter_nil] at h

end ShallowTransfer
