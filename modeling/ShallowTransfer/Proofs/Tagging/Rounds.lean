import ShallowTransfer.Proofs.Tagging.BestRule

/-!
The rounds of the learner. A run keeps the next rule as long as there is one; the number of errors
bounds the number of rounds, so the bound never cuts a run short (`run_study`). What holds of one
kept rule holds of all of them by induction over the run: its score is counted on the samples as the
rules before it leave them, it is positive, and it is what the errors go down by.
-/

namespace ShallowTransfer

/-- The sample after some rules. -/
def Sample.after (rules : List TransformRule) (s : Sample) : Sample :=
  rules.foldl (fun s r => s.apply r) s

/-- The samples after some rules. -/
def samplesAfter (rules : List TransformRule) (samples : List Sample) : List Sample :=
  samples.map (Sample.after rules)

/-- The samples after one more rule. -/
theorem samplesAfter_concat (rules : List TransformRule) (r : TransformRule)
    (samples : List Sample) :
    samplesAfter (rules ++ [r]) samples = (samplesAfter rules samples).map (Sample.apply r) := by
  rw [samplesAfter, samplesAfter, List.map_map]
  refine List.map_congr_left fun s _ => ?_
  rw [Sample.after, List.foldl_append]
  rfl

/-- The samples after a first rule and more of them. -/
theorem samplesAfter_cons (r : TransformRule) (rules : List TransformRule)
    (samples : List Sample) :
    samplesAfter (r :: rules) samples = samplesAfter rules (samples.map (Sample.apply r)) := by
  rw [samplesAfter, samplesAfter, List.map_map]
  rfl

/-- The samples without any rule. -/
theorem samplesAfter_nil (samples : List Sample) : samplesAfter [] samples = samples :=
  List.map_id samples

namespace Learner

variable {l : Learner} {learned : Nat} {samples : List Sample}

/-! ### One round -/

/-- The threshold for signed scores is at most the least score that is asked for. -/
theorem threshold_le_minScore (o : LearnerOptions) : o.threshold ≤ o.minScore.toNat := by
  have h : o.threshold = o.minScore.toBitVec.toInt := rfl
  rw [h, BitVec.toInt_eq_toNat_cond, UInt64.toNat_toBitVec]
  split <;> omega

/-- The next rule is the best one, and there is room for it. -/
theorem nextRule?_eq_some {rule : TransformRule} {score : Score}
    (h : l.nextRule? learned samples = some (rule, score)) :
    learned < l.options.maxRules.toNat ∧
      bestRule l.options.templates samples = some (rule, score) ∧
      l.options.threshold ≤ score.net := by
  rw [nextRule?] at h
  split at h
  · cases h
  · next hgo =>
    rw [Bool.or_eq_true, not_or, Nat.ble_eq] at hgo
    split at h
    · next hb =>
      split at h
      · next hs =>
        cases h
        exact ⟨Nat.not_le.mp hgo.2, hb, hs⟩
      · cases h
    · cases h

/-- A rule that is kept changes a tag into another one, is scored on all places, corrects more than
it breaks, and takes its net score off the errors. -/
theorem net_of_nextRule? {rule : TransformRule} {score : Score}
    (h : l.nextRule? learned samples = some (rule, score)) :
    score = rule.scoreOn (allSites samples) ∧ 1 ≤ score.net ∧
      (errorCount (samples.map (Sample.apply rule)) : Int) = errorCount samples - score.net := by
  obtain ⟨-, hbest, -⟩ := nextRule?_eq_some h
  obtain ⟨⟨c, hc, hrule⟩, hscore, hpos⟩ := bestRule_eq_some hbest
  have hne : rule.source ≠ rule.target := hrule ▸ source_ne_target_of_mem hc
  refine ⟨hscore, hpos, ?_⟩
  rw [hscore]
  exact errorCount_apply hne samples

/-- When there is room for a rule but none is kept, every rule takes off fewer errors than are asked
for. -/
theorem errorCount_lt_of_nextRule?_eq_none {rule : TransformRule}
    (h : l.nextRule? learned samples = none) (hroom : learned < l.options.maxRules.toNat)
    (hmin : l.options.minScore ≠ 0) (hr : rule.source ≠ rule.target)
    (ht : rule.context.template ∈ l.options.templates)
    (hc : rule.context.template ≠ .prevOrPrevTwoTag) :
    errorCount samples <
      errorCount (samples.map (Sample.apply rule)) + l.options.minScore.toNat := by
  have hafter := errorCount_apply hr samples
  have hnet : (rule.scoreOn (allSites samples)).net ≤
      (bestRule l.options.templates samples).net := net_le_bestRule hr ht hc
  have hpos : 0 < l.options.minScore.toNat :=
    Nat.pos_of_ne_zero fun he => hmin (UInt64.toNat_inj.mp he)
  have hthreshold := threshold_le_minScore l.options
  rw [nextRule?] at h
  split at h
  · next hstop =>
    rw [Bool.or_eq_true, decide_eq_true_eq, Nat.ble_eq] at hstop
    omega
  · split at h
    · next hb =>
      split at h
      · cases h
      · next hlow =>
        rw [hb, Best.net] at hnet
        omega
    · next hb =>
      rw [hb, Best.net] at hnet
      omega

/-! ### Runs -/

/-- A run of the learner after `learned` rules: it keeps the next rule as long as there is one. -/
inductive Run (l : Learner) : Nat → List Sample → List Lesson → Prop
  | stop {learned : Nat} {samples : List Sample} :
      l.nextRule? learned samples = none → Run l learned samples []
  | keep {learned : Nat} {samples : List Sample} {rule : TransformRule} {score : Score}
      {lessons : List Lesson} :
      l.nextRule? learned samples = some (rule, score) →
        Run l (learned + 1) (samples.map (Sample.apply rule)) lessons →
          Run l learned samples
            (⟨rule, score, errorCount (samples.map (Sample.apply rule))⟩ :: lessons)

/-- Without errors no rule is kept. -/
theorem nextRule?_eq_none_of_errorCount (h : errorCount samples = 0) :
    l.nextRule? learned samples = none := by
  rw [nextRule?, if_pos]
  rw [h]
  rfl

/-- As many rounds as there are errors are enough. -/
theorem run_rounds (l : Learner) : ∀ (fuel learned : Nat) (samples : List Sample),
    errorCount samples ≤ fuel → Run l learned samples (l.rounds fuel learned samples)
  | 0, _, _, h => .stop (nextRule?_eq_none_of_errorCount (Nat.le_zero.mp h))
  | fuel + 1, learned, samples, h => by
    rw [rounds]
    cases hnext : l.nextRule? learned samples with
    | none => exact .stop hnext
    | some best =>
      obtain ⟨rule, score⟩ := best
      have hnet := net_of_nextRule? hnext
      exact .keep hnext (run_rounds l fuel (learned + 1) _ (by omega))

/-- The course of learning is a whole run. -/
theorem run_study (l : Learner) (samples : List Sample) :
    Run l 0 samples (l.study samples).lessons :=
  run_rounds l _ 0 samples (Nat.le_refl _)

namespace Run

variable {lessons : List Lesson}

/-- There are at most as many rules as there is room for. -/
theorem length_add_le (h : Run l learned samples lessons)
    (hroom : learned ≤ l.options.maxRules.toNat) :
    learned + lessons.length ≤ l.options.maxRules.toNat := by
  induction h with
  | stop _ => exact hroom
  | keep hnext _ ih =>
    have hlt := (nextRule?_eq_some hnext).1
    have hrest := ih (by omega)
    rw [List.length_cons]
    omega

/-- There are at most as many rules as errors. -/
theorem length_le_errorCount (h : Run l learned samples lessons) :
    lessons.length ≤ errorCount samples := by
  induction h with
  | stop _ => exact Nat.zero_le _
  | keep hnext _ ih =>
    have hnet := net_of_nextRule? hnext
    rw [List.length_cons]
    omega

/-- After all rules of a run none is kept. -/
theorem nextRule?_end (h : Run l learned samples lessons) :
    l.nextRule? (learned + lessons.length) (samplesAfter (lessons.map Lesson.rule) samples) =
      none := by
  induction h with
  | stop hnext => rwa [List.map_nil, samplesAfter_nil, List.length_nil, Nat.add_zero]
  | @keep learned samples rule score lessons hnext _ ih =>
    rw [List.map_cons, samplesAfter_cons, List.length_cons, Nat.add_comm lessons.length,
      ← Nat.add_assoc]
    exact ih

/-- Every lesson is about the next rule after those before it. -/
theorem nextRule?_lesson (h : Run l learned samples lessons) {k : Nat} {lesson : Lesson}
    (hk : lessons[k]? = some lesson) :
    l.nextRule? (learned + k) (samplesAfter ((lessons.take k).map Lesson.rule) samples) =
        some (lesson.rule, lesson.score) ∧
      lesson.errorsLeft =
        errorCount (samplesAfter ((lessons.take (k + 1)).map Lesson.rule) samples) := by
  induction h generalizing k with
  | stop _ => cases hk
  | @keep learned samples rule score lessons hnext _ ih =>
    cases k with
    | zero =>
      cases hk
      rw [List.take_zero, List.take_succ_cons, List.take_zero, List.map_nil, List.map_cons,
        List.map_nil, samplesAfter_cons, samplesAfter_nil, samplesAfter_nil]
      exact ⟨hnext, rfl⟩
    | succ k =>
      have hlesson := ih hk
      rw [List.take_succ_cons, List.take_succ_cons, List.map_cons, List.map_cons,
        samplesAfter_cons, samplesAfter_cons, Nat.add_comm k 1, ← Nat.add_assoc]
      rwa [Nat.add_comm k 1] at hlesson

end Run

end Learner

/-! ### What a course counts -/

/-- The errors that a course counts after its first `k` rules. -/
def Course.errorsAfter (c : Course) (k : Nat) : Nat :=
  Course.errorsLeft { c with lessons := c.lessons.take k }

namespace Learner

variable {l : Learner} {samples : List Sample}

/-- A course counts the errors that its rules leave. -/
theorem errorsAfter_study {k : Nat} (hk : k ≤ (l.study samples).lessons.length) :
    (l.study samples).errorsAfter k =
      errorCount (samplesAfter (((l.study samples).lessons.take k).map Lesson.rule) samples) := by
  cases k with
  | zero => rw [List.take_zero, List.map_nil, samplesAfter_nil]; rfl
  | succ k =>
    have hlt : k < (l.study samples).lessons.length := hk
    have hget := List.getElem?_eq_getElem hlt
    rw [← ((run_study l samples).nextRule?_lesson hget).2, Course.errorsAfter, Course.errorsLeft,
      List.getLast?_take, if_neg (Nat.succ_ne_zero k), Nat.add_sub_cancel, hget]
    rfl

/-- Learning on a corpus is learning on its samples. -/
theorem learn_eq_ok {corpus : Corpus} {lexicon : Lexicon} {course : Course}
    (h : l.learn corpus lexicon = .ok course) :
    ∃ samples, corpus.mapM (Sample.ofSentence lexicon) = .ok samples ∧
      course = l.study samples := by
  rw [learn] at h
  cases hs : corpus.mapM (Sample.ofSentence lexicon) with
  | error e => rw [hs] at h; cases h
  | ok samples =>
    rw [hs] at h
    cases h
    exact ⟨samples, rfl, rfl⟩

/-- The least score that a learner asks for is not zero. -/
theorem minScore_ne_zero (l : Learner) : l.options.minScore ≠ 0 := by
  have h := l.sound
  rw [LearnerOptions.check] at h
  split at h
  · cases h
  · split at h
    · cases h
    · split at h
      · cases h
      · assumption

end Learner

end ShallowTransfer
