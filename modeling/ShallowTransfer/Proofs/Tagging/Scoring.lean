import ShallowTransfer.Tagging.Learner

/-!
What a rule does to the errors of a corpus. A rule is scored on the places as they are before it,
and changes all of them at once; so the errors after a rule are those before it less its net score
(`errorCount_apply`), whatever its condition looks at. Only the places that carry the source tag of
a rule matter for its score.
-/

namespace ShallowTransfer

/-! ### Places of a sentence -/

/-- A place holds all of its list: what lies on its left, its own element and what lies right. -/
theorem left_append_of_mem_viewsAfter {α : Type} {v : View α} :
    ∀ {left xs : List α}, v ∈ viewsAfter left xs →
      v.left.reverse ++ v.here :: v.right = left.reverse ++ xs
  | _, [], h => by cases h
  | left, x :: rest, h => by
    rcases List.mem_cons.mp h with rfl | h
    · rfl
    · rw [left_append_of_mem_viewsAfter h, List.reverse_cons, List.append_assoc,
        List.singleton_append]

/-- What lies around a place is part of the list. -/
theorem mem_of_mem_views {α : Type} {v : View α} {xs : List α} (hv : v ∈ views xs) {x : α}
    (hx : x ∈ v.left ∨ x = v.here ∨ x ∈ v.right) : x ∈ xs := by
  have h := left_append_of_mem_viewsAfter hv
  rw [List.reverse_nil, List.nil_append] at h
  rw [← h, List.mem_append, List.mem_cons, List.mem_reverse]
  exact hx

/-! ### Errors after a rule -/

/-- Whether a place is tagged wrongly after the rule. -/
def TransformRule.leavesWrong (r : TransformRule) (s : Site) : Bool :=
  (r.retag s.view).tag ≠ s.gold

/-- The tags after a rule, with the tags that should be there, place by place. -/
theorem Sample.map_sites_apply (r : TransformRule) (s : Sample) :
    (s.apply r).sites.map (fun p => (p.tag, p.gold)) =
      s.sites.map fun p => ((r.retag p.view).tag, p.gold) := by
  have hhere : (views (r.apply s.seen)).map View.here = (views s.seen).map r.retag :=
    map_here_viewsAfter [] _
  calc (s.apply r).sites.map (fun p => (p.tag, p.gold))
      = List.zipWith (fun x g => (x.tag, g)) ((views (r.apply s.seen)).map View.here) s.gold := by
        rw [List.zipWith_map_left, Sample.sites, List.map_zipWith]
        rfl
    _ = s.sites.map fun p => ((r.retag p.view).tag, p.gold) := by
        rw [hhere, List.zipWith_map_left, Sample.sites, List.map_zipWith]

/-- The errors of a sample after a rule are the places that the rule leaves wrong. -/
theorem Sample.countP_sites_apply (r : TransformRule) (s : Sample) :
    (s.apply r).sites.countP Site.isWrong = s.sites.countP r.leavesWrong := by
  have h := congrArg (List.countP fun q : TagId × TagId => q.1 ≠ q.2) (s.map_sites_apply r)
  rw [List.countP_map, List.countP_map] at h
  exact h

/-- The errors of samples add up. -/
theorem errorCount_cons (s : Sample) (samples : List Sample) :
    errorCount (s :: samples) = s.sites.countP Site.isWrong + errorCount samples := by
  rw [errorCount, allSites, List.flatMap_cons, List.countP_append]
  rfl

/-- The errors after a rule are the places that the rule leaves wrong. -/
theorem errorCount_map_apply (r : TransformRule) (samples : List Sample) :
    errorCount (samples.map (Sample.apply r)) = (allSites samples).countP r.leavesWrong := by
  induction samples with
  | nil => rfl
  | cons s rest ih =>
    rw [List.map_cons, errorCount_cons, ih, Sample.countP_sites_apply, allSites, allSites,
      List.flatMap_cons, List.countP_append]

/-- A place where the rule does not fire does not count for its score. -/
theorem scoreOn_cons_of_not_fires {r : TransformRule} {s : Site} (sites : List Site)
    (h : r.fires s.view = false) : r.scoreOn (s :: sites) = r.scoreOn sites := by
  rw [TransformRule.scoreOn, List.filter_cons_of_neg (by rw [h]; decide)]
  rfl

/-- A place where the rule fires counts as corrected, as broken, or not at all. -/
theorem scoreOn_cons_of_fires {r : TransformRule} {s : Site} (sites : List Site)
    (h : r.fires s.view = true) : r.scoreOn (s :: sites) =
      ⟨(r.scoreOn sites).good + if s.gold = r.target then 1 else 0,
        (r.scoreOn sites).bad + if s.gold ≠ r.target ∧ s.gold = r.source then 1 else 0⟩ := by
  simp only [TransformRule.scoreOn, List.filter_cons, h, if_true, List.countP_cons,
    decide_eq_true_eq, Bool.and_eq_true]

/-- A place where the rule does not fire keeps its tag. -/
theorem leavesWrong_of_not_fires {r : TransformRule} {s : Site} (h : r.fires s.view = false) :
    r.leavesWrong s = s.isWrong := by
  simp only [TransformRule.leavesWrong, TransformRule.retag, h, Bool.false_eq_true, if_false]
  rfl

/-- A place where the rule fires carries its source tag. -/
theorem tag_eq_of_fires {r : TransformRule} {s : Site} (h : r.fires s.view = true) :
    s.tag = r.source := by
  rw [TransformRule.fires, Bool.and_eq_true, decide_eq_true_eq] at h
  exact h.1

/-- A place where the rule fires gets the target tag of the rule. -/
theorem leavesWrong_of_fires {r : TransformRule} {s : Site} (h : r.fires s.view = true) :
    r.leavesWrong s = decide (r.target ≠ s.gold) := by
  simp only [TransformRule.leavesWrong, TransformRule.retag, h, if_true]

/-- On any places a rule leaves as many errors as there are, less the corrected and with the
broken ones. -/
theorem countP_leavesWrong_add_good {r : TransformRule} (hr : r.source ≠ r.target)
    (sites : List Site) :
    sites.countP r.leavesWrong + (r.scoreOn sites).good =
      sites.countP Site.isWrong + (r.scoreOn sites).bad := by
  induction sites with
  | nil => rfl
  | cons s rest ih =>
    cases hf : r.fires s.view with
    | false =>
      rw [scoreOn_cons_of_not_fires rest hf, List.countP_cons, List.countP_cons,
        leavesWrong_of_not_fires hf]
      omega
    | true =>
      have hs := tag_eq_of_fires hf
      have hw : s.isWrong = decide (r.source ≠ s.gold) := by rw [Site.isWrong, hs]
      rw [scoreOn_cons_of_fires rest hf, List.countP_cons, List.countP_cons,
        leavesWrong_of_fires hf, hw]
      -- the tag that should be there is the target, the source or neither of them
      by_cases ht : s.gold = r.target
      · simp only [ht, hr, ne_eq, not_true_eq_false, not_false_eq_true, decide_false, decide_true,
          if_true, false_and, if_false, Bool.false_eq_true]
        omega
      · by_cases hsrc : s.gold = r.source
        · simp only [hsrc, hr, Ne.symm hr, ne_eq, not_true_eq_false, not_false_eq_true,
            decide_false, decide_true, if_true, and_self, if_false, Bool.false_eq_true]
          omega
        · simp only [ht, hsrc, Ne.symm ht, Ne.symm hsrc, ne_eq, not_false_eq_true, decide_true,
            if_true, and_false, if_false]
          omega

/-- A rule takes its net score off the errors. -/
theorem errorCount_apply {r : TransformRule} (hr : r.source ≠ r.target) (samples : List Sample) :
    (errorCount (samples.map (Sample.apply r)) : Int) =
      errorCount samples - (r.scoreOn (allSites samples)).net := by
  have h := countP_leavesWrong_add_good hr (allSites samples)
  rw [← errorCount_map_apply] at h
  change _ = errorCount samples + _ at h
  rw [Score.net]
  omega

/-! ### Places that matter for a score -/

/-- The order of the places does not matter. -/
theorem scoreOn_perm {r : TransformRule} {sites sites' : List Site} (h : sites.Perm sites') :
    r.scoreOn sites = r.scoreOn sites' := by
  have hf := h.filter fun s => r.fires s.view
  rw [TransformRule.scoreOn, TransformRule.scoreOn, hf.countP_eq, hf.countP_eq]

/-- Only the places with the source tag of a rule matter. -/
theorem scoreOn_filter_source (r : TransformRule) (sites : List Site) :
    r.scoreOn (sites.filter fun s => s.tag = r.source) = r.scoreOn sites := by
  have hf : ((sites.filter fun s => s.tag = r.source).filter fun s => r.fires s.view) =
      sites.filter fun s => r.fires s.view := by
    rw [List.filter_filter]
    refine List.filter_congr fun s _ => ?_
    cases h : r.fires s.view with
    | false => rw [Bool.false_and]
    | true => rw [Bool.true_and, decide_eq_true (tag_eq_of_fires h)]
  rw [TransformRule.scoreOn, TransformRule.scoreOn, hf]

/-- The corrected places of a rule are those where its source tag stands in place of its target
tag, or some of these. -/
theorem good_le_countP {r : TransformRule} (hr : r.source ≠ r.target) (sites : List Site) :
    (r.scoreOn sites).good ≤
      sites.countP fun s => s.isWrong && (s.tag = r.source && s.gold = r.target) := by
  rw [TransformRule.scoreOn, List.countP_filter]
  refine List.countP_mono_left fun s _ hs => ?_
  rw [Bool.and_eq_true, decide_eq_true_eq] at hs
  have ht := tag_eq_of_fires hs.2
  simp only [Site.isWrong, ht, hs.1, hr, ne_eq, not_false_eq_true, decide_true, Bool.and_self]

/-- A rule that corrects something fires at a wrongly tagged place whose right tag is its target. -/
theorem exists_corrected {r : TransformRule} {sites : List Site} (hr : r.source ≠ r.target)
    (h : 0 < (r.scoreOn sites).good) :
    ∃ s ∈ sites, s.isWrong = true ∧ s.tag = r.source ∧ s.gold = r.target ∧
      r.context.holds s.view = true := by
  obtain ⟨s, hs, hg⟩ := List.countP_pos_iff.mp h
  obtain ⟨hmem, hf⟩ := List.mem_filter.mp hs
  have ht := tag_eq_of_fires hf
  have hgold : s.gold = r.target := of_decide_eq_true hg
  refine ⟨s, hmem, ?_, ht, hgold, ?_⟩
  · rw [Site.isWrong, ht, hgold, decide_eq_true_eq]
    exact hr
  · rw [TransformRule.fires, Bool.and_eq_true] at hf
    exact hf.2

end ShallowTransfer
