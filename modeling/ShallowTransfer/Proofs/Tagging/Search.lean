import ShallowTransfer.Proofs.Tagging.Limits
import ShallowTransfer.Proofs.Tagging.SentenceOrder

/-!
The search for the best rule is exhaustive. The candidates arise where a template has an instance at
a wrongly tagged place (`Candidate.Arises`), and they have an order: by the rank of the template,
then by the tags and by the condition of the rule (`Candidate.Before`). The search goes through them
in this order and keeps the first one with the highest net score on all places (`FirstBest`), so it
finds the one candidate that wins (`Candidate.Wins`), and nothing exactly where no candidate
corrects more than it breaks. On its way it meets no candidate that the survey does not know.
-/

namespace ShallowTransfer

/-! ### The order of candidates -/

theorem lex_cons_iff {l m : Nat} {ls ms : List Nat} :
    List.lex (l :: ls) (m :: ms) Nat.blt = true ↔
      l < m ∨ l = m ∧ List.lex ls ms Nat.blt = true := by
  rw [List.lex, Bool.or_eq_true, Bool.and_eq_true, Nat.blt_eq, beq_iff_eq]

/-- Whether a condition comes before another one: by its template, then by its tags or its word. -/
def Context.Before : Context → Context → Prop
  | .prevTag a, .prevTag b => a < b
  | .nextTag a, .nextTag b => a < b
  | .prevTwoTag a, .prevTwoTag b => a < b
  | .nextTwoTag a, .nextTwoTag b => a < b
  | .prevOrPrevTwoTag a, .prevOrPrevTwoTag b => a < b
  | .surroundTags a c, .surroundTags b d => a < b ∨ a = b ∧ c < d
  | .prevWord v, .prevWord w => textBefore v w = true
  | .nextWord v, .nextWord w => textBefore v w = true
  | .currentWord v, .currentWord w => textBefore v w = true
  | c, d => c.template.index < d.template.index

/-- Whether a rule comes before another one: by its source, then by its target, then by its
condition. -/
def TransformRule.Before (r s : TransformRule) : Prop :=
  r.source < s.source ∨
    r.source = s.source ∧ (r.target < s.target ∨
      r.target = s.target ∧ r.context.Before s.context)

namespace Candidate

/-- Whether a candidate comes before another one: by the rank of its template, then by its rule. -/
def Before (c d : Candidate) : Prop :=
  c.rank < d.rank ∨ c.rank = d.rank ∧ c.rule.Before d.rule

end Candidate

theorem Context.before_iff {c d : Context} :
    c.Before d ↔ List.lex c.key d.key Nat.blt = true := by
  have htag {a b : TagId} : a < b ↔ List.lex [a.toNat] [b.toNat] Nat.blt = true := by
    simp [UInt16.lt_iff_toNat_lt]
  cases c <;> cases d <;>
    simp [Before, key, tagIds, template, Template.index, htag, textBefore, UInt16.toNat_inj]

theorem TransformRule.before_iff {r s : TransformRule} :
    r.Before s ↔ List.lex r.key s.key Nat.blt = true := by
  simp only [Before, key, lex_cons_iff, Context.before_iff, UInt16.lt_iff_toNat_lt,
    UInt16.toNat_inj]

namespace Candidate

theorem before_iff {c d : Candidate} :
    c.Before d ↔ List.lex c.key d.key Nat.blt = true := by
  simp only [Before, key, lex_cons_iff, TransformRule.before_iff]

/-- Two candidates do not come before each other. -/
theorem Before.asymm {c d : Candidate} (h : c.Before d) : ¬ d.Before c := by
  rw [before_iff] at h ⊢
  rw [lex_asymm h]
  exact Bool.false_ne_true

/-- In the order of the search a candidate comes before all other ones behind it. -/
theorem before_of_le {c d : Candidate} (h : c.le d = true) (hne : d ≠ c) : c.Before d := by
  rw [le, Bool.not_eq_true'] at h
  exact before_iff.mpr (lex_total _ _ (fun he => hne (eq_of_key_eq he)) h)

/-! ### What an exhaustive search finds -/

/-- The instances of templates: at a wrongly tagged place the template of this rank gives the
condition, and the rule changes the tag of the place into the one it should have. -/
def Arises (templates : List Template) (sites : List Site) (c : Candidate) : Prop :=
  ∃ s ∈ sites, s.tag ≠ s.gold ∧ ∃ t, templates[c.rank]? = some t ∧
    ∃ context, t.instantiate s.view = some context ∧ c.rule = ⟨s.tag, s.gold, context⟩

/-- The candidate with the highest net score on all places, if that is positive; of several ones the
first. -/
structure Wins (templates : List Template) (sites : List Site) (c : Candidate) : Prop where
  arises : c.Arises templates sites
  net_pos : 0 < (c.rule.scoreOn sites).net
  net_le : ∀ d : Candidate, d.Arises templates sites →
    (d.rule.scoreOn sites).net ≤ (c.rule.scoreOn sites).net
  first : ∀ d : Candidate, d.Arises templates sites → d ≠ c →
    (d.rule.scoreOn sites).net = (c.rule.scoreOn sites).net → c.Before d

variable {templates : List Template} {sites : List Site} {c d : Candidate}

theorem arises_iff : c.Arises templates sites ↔ c ∈ all templates sites := by
  simp only [Arises, mem_candidates, Site.isWrong, decide_eq_true_eq]

/-- At most one candidate wins. -/
theorem Wins.unique (hc : c.Wins templates sites) (hd : d.Wins templates sites) : c = d := by
  have hnet := Int.le_antisymm (hd.net_le c hc.arises) (hc.net_le d hd.arises)
  by_contra hne
  have hcd := hc.first d hd.arises (Ne.symm hne) hnet.symm
  exact hcd.asymm (hd.first c hc.arises hne hnet)

end Candidate

/-! ### The search -/

/-- In the order of the candidates the first of the best ones wins. -/
theorem FirstBest.wins {templates : List Template} {sites : List Site} {candidates : List Candidate}
    {best : Best} (h : FirstBest sites candidates best)
    (hmem : ∀ c, c ∈ candidates ↔ c.Arises templates sites)
    (hsorted : candidates.Pairwise fun a b => a.le b = true) :
    (best = none ∧ ∀ c : Candidate, c.Arises templates sites → (c.rule.scoreOn sites).net ≤ 0) ∨
      ∃ c : Candidate, c.Wins templates sites ∧ best = some (c.rule, c.rule.scoreOn sites) := by
  cases h with
  | nothing hseen => exact .inl ⟨rfl, fun c hc => hseen c ((hmem c).mpr hc)⟩
  | @found before after c hpos hbefore hafter =>
    have hle := (List.pairwise_cons.mp (List.pairwise_append.mp hsorted).2.1).1
    refine .inr ⟨c, ⟨(hmem c).mp (by simp), hpos, fun d hd => ?_, fun d hd hne heq => ?_⟩, rfl⟩
    · exact net_le_of_mem hbefore hafter ((hmem d).mpr hd)
    · -- a candidate with the same net score stands behind the winner
      rcases List.mem_append.mp ((hmem d).mpr hd) with hd | hd
      · have := hbefore d hd
        omega
      · rcases List.mem_cons.mp hd with rfl | hd
        · exact absurd rfl hne
        · exact Candidate.before_of_le (hle d hd) hne

section Search

variable (templates : List Template) (samples : List Sample)

/-- The search ends without a rule where no candidate corrects more than it breaks, and otherwise
with the candidate that wins. -/
theorem bestRule_cases :
    (bestRule templates samples = none ∧ ∀ c : Candidate, c.Arises templates (allSites samples) →
        (c.rule.scoreOn (allSites samples)).net ≤ 0) ∨
      ∃ c : Candidate, c.Wins templates (allSites samples) ∧
        bestRule templates samples = some (c.rule, c.rule.scoreOn (allSites samples)) := by
  refine (firstBest_bestRule templates samples).wins (fun c => ?_) ?_
  · rw [(List.mergeSort_perm _ _).mem_iff, Candidate.arises_iff]
  · exact List.pairwise_mergeSort (fun a b c => lexLe_trans a.key b.key c.key)
      (fun a b => lexLe_total a.key b.key) _

/-- The survey knows every candidate: the places with its source tag, and how often this stands in
place of its target tag. -/
theorem exists_surveyed {sites : List Site} {c : Candidate} (h : c.Arises templates sites) :
    (∃ places, (Survey.ofSites sites).places.get? c.rule.source = some places ∧
        places.Perm (sites.filter fun s => s.tag = c.rule.source)) ∧
      (Survey.ofSites sites).confusions.get? (c.rule.source, c.rule.target) =
        some (sites.countP fun s => s.tag = c.rule.source && s.gold = c.rule.target) := by
  have hne := source_ne_target_of_mem (Candidate.arises_iff.mp h)
  obtain ⟨s, hs, hw, -, -, context, -, hr⟩ := h
  have hsource : s.tag = c.rule.source := by rw [hr]
  have htarget : s.gold = c.rule.target := by rw [hr]
  refine ⟨⟨_, get?_places ⟨s, hs, hsource⟩, List.reverse_perm _⟩, ?_⟩
  rw [get?_confusions ⟨s, hs, decide_eq_true hw, hsource, htarget⟩]
  refine congrArg some (List.countP_congr fun p _ => ?_)
  simp only [Site.isWrong, Bool.and_eq_true, decide_eq_true_eq]
  refine ⟨fun hp => hp.2, fun hp => ⟨?_, hp⟩⟩
  rw [hp.1, hp.2]
  exact hne

/-- The search for the best rule finds what an exhaustive search finds: the candidate with the
highest net score on all places, and of several ones the first by the rank of its template, then by
its rule; and nothing exactly where no candidate has a positive net score. All numbers that it looks
up for a candidate are there. -/
theorem bestRule_exhaustive :
    (∀ rule score, bestRule templates samples = some (rule, score) ↔
      ∃ c : Candidate, c.Wins templates (allSites samples) ∧ c.rule = rule ∧
        score = rule.scoreOn (allSites samples)) ∧
    (bestRule templates samples = none ↔
      ∀ c : Candidate, c.Arises templates (allSites samples) →
        (c.rule.scoreOn (allSites samples)).net ≤ 0) ∧
    ∀ c : Candidate, c.Arises templates (allSites samples) →
      (∃ places, (Survey.ofSites (allSites samples)).places.get? c.rule.source = some places ∧
          places.Perm ((allSites samples).filter fun s => s.tag = c.rule.source)) ∧
        (Survey.ofSites (allSites samples)).confusions.get? (c.rule.source, c.rule.target) =
          some ((allSites samples).countP fun s =>
            s.tag = c.rule.source && s.gold = c.rule.target) := by
  have hcases := bestRule_cases templates samples
  refine ⟨fun rule score => ⟨fun h => ?_, ?_⟩, ⟨fun h => ?_, fun h => ?_⟩,
    fun c hc => exists_surveyed templates hc⟩
  · rcases hcases with ⟨hnone, -⟩ | ⟨c, hwins, hsome⟩
    · rw [hnone] at h
      cases h
    · rw [hsome] at h
      cases h
      exact ⟨c, hwins, rfl, rfl⟩
  · rintro ⟨c, hwins, rfl, rfl⟩
    rcases hcases with ⟨-, hle⟩ | ⟨d, hd, hsome⟩
    · have := hle c hwins.arises
      have := hwins.net_pos
      omega
    · rw [hsome, hwins.unique hd]
  · rcases hcases with ⟨-, hle⟩ | ⟨c, -, hsome⟩
    · exact hle
    · rw [hsome] at h
      cases h
  · rcases hcases with ⟨hnone, -⟩ | ⟨c, hwins, -⟩
    · exact hnone
    · have := h c hwins.arises
      have := hwins.net_pos
      omega

end Search

/-- A word that is a verb behind the word "a" with another tag. -/
def verbSample : Sample := ⟨[⟨"a", 0⟩, ⟨"b", 1⟩], [0, 2]⟩

/-- Two rules correct the tag of the word equally well. The template of the previous word is listed
first, so its rule wins, though in the order of rules it comes behind the other one; and both are
known to the survey. -/
theorem bestRule_exhaustive_tie :
    ∃ c : Candidate, c.Wins [.prevWord, .prevTag] (allSites [verbSample]) ∧
      c.rule = ⟨1, 2, .prevWord "a"⟩ ∧
      (⟨1, 2, .prevTag 0⟩ : TransformRule).Before c.rule ∧
      ((⟨1, 2, .prevTag 0⟩ : TransformRule).scoreOn (allSites [verbSample])).net =
        (c.rule.scoreOn (allSites [verbSample])).net ∧
      (Survey.ofSites (allSites [verbSample])).confusions.get? (1, 2) = some 1 := by
  have hbest : bestRule [.prevWord, .prevTag] [verbSample] =
      some (⟨1, 2, .prevWord "a"⟩, ⟨1, 0⟩) := by
    rw [Learner.bestRule_of_pairwise (by decide)]
    decide
  have htag : (⟨1, ⟨1, 2, .prevTag 0⟩⟩ : Candidate).Arises [.prevWord, .prevTag]
      (allSites [verbSample]) :=
    Candidate.arises_iff.mpr (by decide)
  obtain ⟨hfound, -, hsurveyed⟩ := bestRule_exhaustive [.prevWord, .prevTag] [verbSample]
  obtain ⟨c, hwins, hrule, -⟩ := (hfound _ _).mp hbest
  refine ⟨c, hwins, hrule, ?_, ?_, ?_⟩
  · rw [hrule, TransformRule.before_iff]
    decide
  · rw [hrule]
    decide
  · rw [(hsurveyed _ htag).2]
    decide

end ShallowTransfer
