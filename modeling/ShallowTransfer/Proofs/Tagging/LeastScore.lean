import Mathlib.Algebra.GroupWithZero.Nat
import Mathlib.Data.List.TakeWhile
import ShallowTransfer.Proofs.Tagging.Limits

/-!
The least score of a learner. Scores are signed, and so is the number that they are compared with:
a least score below 2^63 is reached by every rule of a run, so that the errors go down by it with
every rule (`Run.threshold_mul_length_le`), while one from 2^63 on stands for a negative number and
holds nothing back, as if it were one (`lenient_study`).
-/

namespace ShallowTransfer

/-- A least score with the highest bit stands for a negative number. -/
theorem LearnerOptions.threshold_neg {o : LearnerOptions} (h : 2 ^ 63 ≤ o.minScore.toNat) :
    o.threshold < 0 := by
  have hlt := o.minScore.toNat_lt
  have hint : o.threshold = o.minScore.toBitVec.toInt := rfl
  rw [hint, BitVec.toInt_eq_toNat_cond, UInt64.toNat_toBitVec, if_neg (by omega)]
  omega

/-- Options that pass the check pass it with the least score one. -/
theorem LearnerOptions.check_of_minScore_one {o : LearnerOptions} (h : o.check = .ok ()) :
    LearnerOptions.check { o with minScore := 1 } = .ok () := by
  rw [check] at h ⊢
  split at h
  · cases h
  · next htemplates =>
    rw [if_neg htemplates]
    split at h
    · cases h
    · next hrepeated =>
      rw [hrepeated]
      rfl

namespace Learner

/-- The learner that keeps every rule that corrects more than it breaks. -/
def lenient (l : Learner) : Learner :=
  ⟨{ l.options with minScore := 1 }, LearnerOptions.check_of_minScore_one l.sound⟩

section Run

variable {l : Learner} {learned : Nat} {samples : List Sample} {lessons : List Lesson}

/-- Every rule of a run reaches the threshold and corrects more than it breaks. -/
theorem Run.le_net (h : Run l learned samples lessons) {lesson : Lesson} (hl : lesson ∈ lessons) :
    l.options.threshold ≤ lesson.score.net ∧ 1 ≤ lesson.score.net := by
  obtain ⟨k, hk⟩ := List.mem_iff_getElem?.mp hl
  have hnext := (h.nextRule?_lesson hk).1
  exact ⟨(nextRule?_eq_some hnext).2.2, (net_of_nextRule? hnext).2.1⟩

/-- No rule of a run takes off more errors than there are at first. -/
theorem Run.net_le_errorCount (h : Run l learned samples lessons) :
    ∀ lesson ∈ lessons, lesson.score.net ≤ errorCount samples := by
  induction h with
  | stop _ => exact fun _ hl => nomatch hl
  | keep hnext _ ih =>
    obtain ⟨-, hpos, herrors⟩ := net_of_nextRule? hnext
    intro lesson hl
    rcases List.mem_cons.mp hl with rfl | hl
    · dsimp only
      omega
    · have := ih lesson hl
      omega

/-- The errors at first pay for the threshold of every rule. -/
theorem Run.threshold_mul_length_le (h : Run l learned samples lessons) :
    l.options.threshold * lessons.length ≤ errorCount samples := by
  induction h with
  | stop _ => simp
  | keep hnext _ ih =>
    have hscore := (nextRule?_eq_some hnext).2.2
    obtain ⟨-, -, herrors⟩ := net_of_nextRule? hnext
    rw [List.length_cons, Int.natCast_add, Int.mul_add, Int.natCast_one, Int.mul_one]
    omega

end Run

/-- Where the threshold is one at most, the learner goes the way of the lenient one. -/
theorem lenient_study {l : Learner} (h : l.options.threshold ≤ 1) (samples : List Sample) :
    l.lenient.study samples = l.study samples := by
  have hrun := l.run_study samples
  have hstricter : l.lenient.options.Stricter l.options := ⟨rfl, h, Nat.le_refl _⟩
  have hrounds := rounds_of_stricter hstricter (errorCount samples) 0 samples
  have hroom : (l.rounds (errorCount samples) 0 samples).length ≤
      l.lenient.options.maxRules.toNat := by
    have hlength := hrun.length_add_le (Nat.zero_le _)
    rwa [Nat.zero_add] at hlength
  have hall : ∀ lesson ∈ l.rounds (errorCount samples) 0 samples,
      decide (l.lenient.options.threshold ≤ lesson.score.net) = true :=
    fun lesson hl => decide_eq_true (hrun.le_net hl).2
  rw [study, study, hrounds, Nat.sub_zero]
  rw [List.take_of_length_le hroom, List.takeWhile_eq_self_iff.mpr hall]

/-- Every rule is scored on the samples as the rules before it leave them, and a least score below
2^63 is reached by all of them; so the least score times the number of rules is at most the number
of errors at first. From 2^63 on the learner keeps what it would keep with the least score one, and
where there are fewer than 2^63 errors none of its rules has the score that was asked for. -/
theorem least_score_reached {l : Learner} {corpus : Corpus} {lexicon : Lexicon} {course : Course}
    (h : l.learn corpus lexicon = .ok course) :
    ∃ samples, corpus.mapM (Sample.ofSentence lexicon) = .ok samples ∧
      (∀ (k : Nat) (lesson : Lesson), course.lessons[k]? = some lesson → lesson.score =
        lesson.rule.scoreOn (allSites (samplesAfter (course.rules.rules.take k) samples))) ∧
      (l.options.minScore.toNat < 2 ^ 63 →
        (∀ lesson ∈ course.lessons, (l.options.minScore.toNat : Int) ≤ lesson.score.net) ∧
          l.options.minScore.toNat * course.lessons.length ≤ course.initialErrors) ∧
      (2 ^ 63 ≤ l.options.minScore.toNat →
        l.lenient.learn corpus lexicon = .ok course ∧
          (course.initialErrors < 2 ^ 63 → ∀ lesson ∈ course.lessons,
            lesson.score.net < l.options.minScore.toNat)) := by
  obtain ⟨samples, hs, rfl⟩ := learn_eq_ok h
  have hrun := l.run_study samples
  refine ⟨samples, hs, fun k lesson hk => ?_, fun hsmall => ⟨fun lesson hl => ?_, ?_⟩,
    fun hlarge => ⟨?_, fun herrors lesson hl => ?_⟩⟩
  · rw [(net_of_nextRule? (hrun.nextRule?_lesson hk).1).1, Course.rules, List.map_take]
  · rw [← LearnerOptions.threshold_eq hsmall]
    exact (hrun.le_net hl).1
  · have hpaid := hrun.threshold_mul_length_le
    rw [LearnerOptions.threshold_eq hsmall] at hpaid
    exact_mod_cast hpaid
  · have hneg := LearnerOptions.threshold_neg hlarge
    rw [learn, hs]
    exact congrArg Except.ok (lenient_study (by omega) samples)
  · have hnet := hrun.net_le_errorCount lesson hl
    have hinitial : (l.study samples).initialErrors = errorCount samples := rfl
    omega

/-- A learner that asks for 2^63 errors less of every rule. -/
def boundlessLearner : Learner := prevTagLearner 0x8000000000000000 (by decide)

/-- It keeps a rule that takes off a single error, which is the only one. -/
theorem learn_beneath_least_score :
    boundlessLearner.options.minScore.toNat = 2 ^ 63 ∧
      ∃ course, boundlessLearner.learn twoSentences oneWord = .ok course ∧
        course.initialErrors < boundlessLearner.options.minScore.toNat * course.lessons.length ∧
        ∃ lesson ∈ course.lessons,
          ¬ (boundlessLearner.options.minScore.toNat : Int) ≤ lesson.score.net := by
  have hlearn : boundlessLearner.learn twoSentences oneWord =
      .ok ⟨3, 1, [⟨⟨1, 2, .prevTag 0⟩, ⟨1, 0⟩, 0⟩]⟩ := by
    decide +kernel
  exact ⟨rfl, _, hlearn, by decide, _, List.mem_cons_self, by decide⟩

/-- Of the two rules for the three sentences, the learner that asks for two errors less keeps one.
-/
theorem learn_two_threeSentences : (prevTagLearner 2 (by decide)).learn threeSentences oneWord =
    .ok ⟨6, 3, [⟨⟨1, 2, .prevTag 0⟩, ⟨2, 0⟩, 1⟩]⟩ := by
  have htemplates : (prevTagLearner 2 (by decide)).options.templates = [.prevTag] := rfl
  have hfirst : (prevTagLearner 2 (by decide)).nextRule? 0 threeSamples =
      some (⟨1, 2, .prevTag 0⟩, ⟨2, 0⟩) := by
    rw [nextRule?, htemplates, bestRule_threeSamples]
    decide
  have hnone : (prevTagLearner 2 (by decide)).nextRule? 1 threeSamplesNext = none := by
    rw [nextRule?, htemplates, bestRule_threeSamplesNext]
    decide
  have hleft : errorCount threeSamplesNext = 1 := by decide
  rw [learn_threeSentences, rounds_of_some hfirst, ← threeSamplesNext, rounds_of_none hnone, hleft]

/-- The one rule takes off two of the three errors; and the learner without bounds keeps a rule
that takes off one, as the lenient one does. -/
theorem least_score_reached_small :
    2 ≤ (⟨2, 0⟩ : Score).net ∧ 2 * 1 ≤ 3 ∧
      boundlessLearner.lenient.learn twoSentences oneWord =
        .ok ⟨3, 1, [⟨⟨1, 2, .prevTag 0⟩, ⟨1, 0⟩, 0⟩]⟩ ∧
      (⟨1, 0⟩ : Score).net < boundlessLearner.options.minScore.toNat := by
  have hlearn : boundlessLearner.learn twoSentences oneWord =
      .ok ⟨3, 1, [⟨⟨1, 2, .prevTag 0⟩, ⟨1, 0⟩, 0⟩]⟩ := by
    decide +kernel
  obtain ⟨-, -, -, hreached, -⟩ := least_score_reached learn_two_threeSentences
  obtain ⟨-, -, -, -, hlarge⟩ := least_score_reached hlearn
  obtain ⟨hnet, hpaid⟩ := hreached (by decide)
  obtain ⟨hlenient, hbelow⟩ := hlarge (by decide)
  exact ⟨hnet _ List.mem_cons_self, hpaid, hlenient, hbelow (by decide) _ List.mem_cons_self⟩

end Learner

end ShallowTransfer
