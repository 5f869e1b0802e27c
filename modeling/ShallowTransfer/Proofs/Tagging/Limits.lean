import ShallowTransfer.Proofs.Tagging.Replay

/-!
The limits of a learner. Which rule is the best one depends on the samples alone; the limits only
decide whether it is kept. So a learner with stricter limits goes the same way as another one up to
the first rule that it has no room for or that scores too low for it (`rounds_of_stricter`), and
what it learns is the beginning of what the other one learns (`learn_prefix_of_stricter`). Scores
are signed, so this holds of least scores below 2^63.
-/

namespace ShallowTransfer

/-- A least score without the highest bit is what it says. -/
theorem LearnerOptions.threshold_eq {o : LearnerOptions} (h : o.minScore.toNat < 2 ^ 63) :
    o.threshold = o.minScore.toNat := by
  have hint : o.threshold = o.minScore.toBitVec.toInt := rfl
  rw [hint, BitVec.toInt_eq_toNat_cond, UInt64.toNat_toBitVec, if_pos (by omega)]

/-- Options with the same templates that keep no more rules. -/
structure LearnerOptions.Stricter (strict o : LearnerOptions) : Prop where
  templates : strict.templates = o.templates
  threshold : o.threshold ≤ strict.threshold
  maxRules : strict.maxRules.toNat ≤ o.maxRules.toNat

namespace Learner

variable {strict l : Learner}

/-- The next rule under stricter limits is the next rule, if there is room for it and its score is
high enough. -/
theorem nextRule?_of_stricter (h : strict.options.Stricter l.options) (learned : Nat)
    (samples : List Sample) :
    strict.nextRule? learned samples =
      if learned < strict.options.maxRules.toNat then
        (l.nextRule? learned samples).filter fun best => strict.options.threshold ≤ best.2.net
      else none := by
  have hthreshold := h.threshold
  have hmax := h.maxRules
  simp only [nextRule?, h.templates]
  by_cases herrors : errorCount samples = 0
  · simp [herrors]
  · by_cases hroom : learned < strict.options.maxRules.toNat
    · have hstrict : ¬ strict.options.maxRules.toNat ≤ learned := by omega
      have hl : ¬ l.options.maxRules.toNat ≤ learned := by omega
      simp only [herrors, hstrict, hl, hroom, Nat.ble_eq, decide_false, Bool.false_or, if_false,
        if_true]
      cases bestRule l.options.templates samples with
      | none => rfl
      | some best =>
        by_cases hscore : strict.options.threshold ≤ best.2.net
        · have hlow : l.options.threshold ≤ best.2.net := Int.le_trans hthreshold hscore
          simp [hscore, hlow, Option.filter_some]
        · by_cases hlow : l.options.threshold ≤ best.2.net
          · simp [hscore, hlow, Option.filter_some]
          · simp [hscore, hlow]
    · simp [hroom, Nat.not_lt.mp hroom]

theorem rounds_of_none {fuel learned : Nat} {samples : List Sample}
    (h : l.nextRule? learned samples = none) : l.rounds (fuel + 1) learned samples = [] := by
  rw [rounds, h]

theorem rounds_of_some {fuel learned : Nat} {samples : List Sample} {rule : TransformRule}
    {score : Score} (h : l.nextRule? learned samples = some (rule, score)) :
    l.rounds (fuel + 1) learned samples =
      ⟨rule, score, errorCount (samples.map (Sample.apply rule))⟩ ::
        l.rounds fuel (learned + 1) (samples.map (Sample.apply rule)) := by
  rw [rounds, h]

/-- The lessons under stricter limits are those that there is room for, up to the first one with too
low a score. -/
theorem rounds_of_stricter (h : strict.options.Stricter l.options) :
    ∀ (fuel learned : Nat) (samples : List Sample),
      strict.rounds fuel learned samples =
        ((l.rounds fuel learned samples).take (strict.options.maxRules.toNat - learned)).takeWhile
          fun lesson => strict.options.threshold ≤ lesson.score.net
  | 0, _, _ => by rw [rounds, rounds, List.take_nil, List.takeWhile_nil]
  | fuel + 1, learned, samples => by
    rw [rounds, rounds, nextRule?_of_stricter h]
    by_cases hroom : learned < strict.options.maxRules.toNat
    · obtain ⟨room, hroom'⟩ : ∃ room, strict.options.maxRules.toNat - learned = room + 1 :=
        ⟨strict.options.maxRules.toNat - (learned + 1), by omega⟩
      have hrest : strict.options.maxRules.toNat - (learned + 1) = room := by omega
      rw [if_pos hroom, hroom']
      cases l.nextRule? learned samples with
      | none => rfl
      | some best =>
        by_cases hscore : strict.options.threshold ≤ best.2.net
        · have ih := rounds_of_stricter h fuel (learned + 1) (samples.map (Sample.apply best.1))
          rw [hrest] at ih
          simp [Option.filter_some, hscore, ih]
        · simp [Option.filter_some, hscore]
    · rw [if_neg hroom, Nat.sub_eq_zero_of_le (Nat.not_lt.mp hroom), List.take_zero,
        List.takeWhile_nil]

/-- Of two learners with the same templates, the one that asks for at least as high a score and
keeps at most as many rules learns the first rules of the other one, from every corpus with every
lexicon; or both fail for the same reason. -/
theorem learn_prefix_of_stricter (htemplates : strict.options.templates = l.options.templates)
    (hscore : l.options.minScore ≤ strict.options.minScore)
    (hsigned : strict.options.minScore.toNat < 2 ^ 63)
    (hmax : strict.options.maxRules ≤ l.options.maxRules) (corpus : Corpus) (lexicon : Lexicon) :
    (∃ e, strict.learn corpus lexicon = .error e ∧ l.learn corpus lexicon = .error e) ∨
      ∃ few all, strict.learn corpus lexicon = .ok few ∧ l.learn corpus lexicon = .ok all ∧
        few.rules.rules <+: all.rules.rules := by
  have hle := UInt64.le_iff_toNat_le.mp hscore
  have hstricter : strict.options.Stricter l.options := by
    refine ⟨htemplates, ?_, UInt64.le_iff_toNat_le.mp hmax⟩
    rw [LearnerOptions.threshold_eq hsigned, LearnerOptions.threshold_eq (by omega)]
    omega
  simp only [learn]
  cases corpus.mapM (Sample.ofSentence lexicon) with
  | error e => exact .inl ⟨e, rfl, rfl⟩
  | ok samples =>
    refine .inr ⟨strict.study samples, l.study samples, rfl, rfl, List.IsPrefix.map Lesson.rule ?_⟩
    have hrounds := rounds_of_stricter hstricter (errorCount samples) 0 samples
    rw [study, study, hrounds]
    exact (List.takeWhile_prefix _).trans (List.take_prefix _ _)

/-- A word that stands once for something else behind a noun, and twice for a verb behind something
else. -/
def threeSentences : Corpus :=
  [[("b", "n"), ("b", "x")], [("a", "x"), ("b", "v")], [("a", "x"), ("b", "v")]]

/-- The three sentences with their first guesses. -/
def threeSamples : List Sample :=
  [⟨[⟨"b", 1⟩, ⟨"b", 1⟩], [1, 0]⟩, ⟨[⟨"a", 0⟩, ⟨"b", 1⟩], [0, 2]⟩,
    ⟨[⟨"a", 0⟩, ⟨"b", 1⟩], [0, 2]⟩]

theorem learn_threeSentences (l : Learner) : l.learn threeSentences oneWord =
    .ok ⟨6, 3, l.rounds 3 0 threeSamples⟩ := by
  have hsamples : threeSentences.mapM (Sample.ofSentence oneWord) = .ok threeSamples := by
    decide
  rw [learn, hsamples]
  rfl

/-- The samples after the rule for the verbs. -/
def threeSamplesNext : List Sample :=
  threeSamples.map (Sample.apply ⟨1, 2, .prevTag 0⟩)

/-- Candidates that are in order need not be sorted. -/
theorem bestRule_of_pairwise {templates : List Template} {samples : List Sample}
    (h : (Candidate.all templates (allSites samples)).Pairwise fun a b => a.le b = true) :
    bestRule templates samples = (Candidate.all templates (allSites samples)).foldl
      (Survey.ofSites (allSites samples)).challenge none := by
  rw [bestRule, List.mergeSort_of_pairwise h]

theorem bestRule_threeSamples :
    bestRule [.prevTag] threeSamples = some (⟨1, 2, .prevTag 0⟩, ⟨2, 0⟩) := by
  rw [bestRule_of_pairwise (by decide)]
  decide

theorem bestRule_threeSamplesNext :
    bestRule [.prevTag] threeSamplesNext = some (⟨1, 0, .prevTag 1⟩, ⟨1, 0⟩) := by
  rw [bestRule_of_pairwise (by decide)]
  decide

/-- Of the two rules for the sentences, the one with the score two is the first, and the only one
where two is the least score. -/
theorem learn_prefix_of_stricter_threeSentences :
    ∃ few all, (prevTagLearner 2 (by decide)).learn threeSentences oneWord = .ok few ∧
      (prevTagLearner 1 (by decide)).learn threeSentences oneWord = .ok all ∧
      few.rules.rules <+: all.rules.rules ∧ few.rules.rules.length = 1 ∧
      2 ≤ all.rules.rules.length := by
  have htemplates (n : UInt64) (h : n ≠ 0) :
      (prevTagLearner n h).options.templates = [.prevTag] := rfl
  have hfirst : (prevTagLearner 1 (by decide)).nextRule? 0 threeSamples =
      some (⟨1, 2, .prevTag 0⟩, ⟨2, 0⟩) := by
    rw [nextRule?, htemplates, bestRule_threeSamples]
    decide
  have hfirst' : (prevTagLearner 2 (by decide)).nextRule? 0 threeSamples =
      some (⟨1, 2, .prevTag 0⟩, ⟨2, 0⟩) := by
    rw [nextRule?, htemplates, bestRule_threeSamples]
    decide
  have hsecond : (prevTagLearner 1 (by decide)).nextRule? 1 threeSamplesNext =
      some (⟨1, 0, .prevTag 1⟩, ⟨1, 0⟩) := by
    rw [nextRule?, htemplates, bestRule_threeSamplesNext]
    decide
  have hnone : (prevTagLearner 2 (by decide)).nextRule? 1 threeSamplesNext = none := by
    rw [nextRule?, htemplates, bestRule_threeSamplesNext]
    decide
  rcases @learn_prefix_of_stricter (prevTagLearner 2 (by decide)) (prevTagLearner 1 (by decide)) rfl
    (by decide) (by decide) (by decide) threeSentences oneWord with
    ⟨e, herror, -⟩ | ⟨few, all, hfew, hall, hprefix⟩
  · rw [learn_threeSentences] at herror
    cases herror
  · refine ⟨few, all, hfew, hall, hprefix, ?_, ?_⟩
    · rw [learn_threeSentences, rounds_of_some hfirst', ← threeSamplesNext, rounds_of_none hnone,
        Except.ok.injEq] at hfew
      rw [← hfew]
      rfl
    · rw [learn_threeSentences, rounds_of_some hfirst, ← threeSamplesNext, rounds_of_some hsecond,
        Except.ok.injEq] at hall
      rw [← hall]
      exact Nat.le_add_left 2 _

end Learner

end ShallowTransfer
