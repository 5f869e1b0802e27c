import Mathlib.Data.List.Basic
import ShallowTransfer.Proofs.Tagging.Scoring

/-!
The best rule. The survey of the places holds what it should: under every tag the places with that
tag, and for two tags how often one stands in place of the other. So a candidate that is passed over
could not have won (`challenge_eq_rival`), and the search is the plain one over all candidates. A
rule with a positive net score corrects some place, and its template gives exactly this rule there;
so no rule at all beats the best candidate (`net_le_bestRule`), but for a condition on one of two
previous tags, whose template looks at the nearer one only.
-/

namespace ShallowTransfer

/-! ### The survey -/

/-- Filing the places in their order leaves those with a tag under it, the last one first. -/
theorem getD_foldl_file (t : TagId) (sites : List Site) :
    ∀ m : OrderedMap TagId (List Site), ((sites.foldl Survey.file m).get? t).getD [] =
      (sites.filter fun s => s.tag = t).reverse ++ (m.get? t).getD [] := by
  induction sites with
  | nil => exact fun m => rfl
  | cons s rest ih =>
    intro m
    rw [List.foldl_cons, ih, Survey.file, OrderedMap.get?_alter]
    by_cases hs : s.tag = t
    · simp [hs]
    · simp [hs]

/-- A tag that has been filed stays filed. -/
theorem isSome_foldl_file {t : TagId} {sites : List Site} :
    ∀ {m : OrderedMap TagId (List Site)}, (m.get? t).isSome ∨ (∃ s ∈ sites, s.tag = t) →
      ((sites.foldl Survey.file m).get? t).isSome := by
  induction sites with
  | nil =>
    rintro m (h | ⟨s, hs, -⟩)
    · exact h
    · cases hs
  | cons s rest ih =>
    intro m h
    refine ih ?_
    rw [Survey.file, OrderedMap.get?_alter]
    by_cases hs : s.tag = t
    · exact .inl (by simp [hs])
    · rcases h with h | ⟨s', hs', ht⟩
      · exact .inl (by simpa [hs] using h)
      · rcases List.mem_cons.mp hs' with rfl | hs'
        · exact absurd ht hs
        · exact .inr ⟨s', hs', ht⟩

/-- Counting confusions in the order of the places adds up all of them. -/
theorem getD_foldl_countConfusion (a b : TagId) (sites : List Site) :
    ∀ m : OrderedMap (TagId × TagId) Nat,
      ((sites.foldl Survey.countConfusion m).get? (a, b)).getD 0 =
        (sites.countP fun s => s.isWrong && (s.tag = a && s.gold = b)) +
          (m.get? (a, b)).getD 0 := by
  induction sites with
  | nil => exact fun m => (Nat.zero_add _).symm
  | cons s rest ih =>
    intro m
    rw [List.foldl_cons, ih, Survey.countConfusion, List.countP_cons]
    cases hw : s.isWrong with
    | false => simp
    | true =>
      rw [if_pos rfl, OrderedMap.get?_alter]
      by_cases hs : s.tag = a ∧ s.gold = b
      · obtain ⟨rfl, rfl⟩ := hs
        simp only [if_true, Option.getD_some, decide_true, Bool.and_self]
        omega
      · rw [if_neg (by simpa using hs), if_neg (by simpa using hs), Nat.add_zero]

/-- A confusion that has been counted stays counted. -/
theorem isSome_foldl_countConfusion {a b : TagId} {sites : List Site} :
    ∀ {m : OrderedMap (TagId × TagId) Nat},
      (m.get? (a, b)).isSome ∨ (∃ s ∈ sites, s.isWrong = true ∧ s.tag = a ∧ s.gold = b) →
        ((sites.foldl Survey.countConfusion m).get? (a, b)).isSome := by
  induction sites with
  | nil =>
    rintro m (h | ⟨s, hs, -⟩)
    · exact h
    · cases hs
  | cons s rest ih =>
    intro m h
    refine ih ?_
    rcases h with h | ⟨s', hs', hw, ha, hb⟩
    · refine .inl ?_
      rw [Survey.countConfusion]
      split
      · rw [OrderedMap.get?_alter]
        split
        · rfl
        · exact h
      · exact h
    · rcases List.mem_cons.mp hs' with rfl | hs'
      · refine .inl ?_
        rw [Survey.countConfusion, if_pos hw, OrderedMap.get?_alter, if_pos (by rw [ha, hb])]
        rfl
      · exact .inr ⟨s', hs', hw, ha, hb⟩

section Survey
variable {sites : List Site} {a b : TagId}

/-- Under a tag stand the places that carry it. -/
theorem get?_places (h : ∃ s ∈ sites, s.tag = a) :
    (Survey.ofSites sites).places.get? a =
      some (sites.filter fun s => s.tag = a).reverse := by
  obtain ⟨found, hf⟩ := Option.isSome_iff_exists.mp
    (isSome_foldl_file (m := OrderedMap.empty) (.inr h))
  have hd := getD_foldl_file a sites OrderedMap.empty
  rw [hf, Option.getD_some] at hd
  rw [Survey.ofSites, hf, hd]
  exact congrArg some (List.append_nil _)

/-- Under two tags stands how often the first one is in place of the second one. -/
theorem get?_confusions (h : ∃ s ∈ sites, s.isWrong = true ∧ s.tag = a ∧ s.gold = b) :
    (Survey.ofSites sites).confusions.get? (a, b) =
      some (sites.countP fun s => s.isWrong && (s.tag = a && s.gold = b)) := by
  obtain ⟨found, hf⟩ := Option.isSome_iff_exists.mp
    (isSome_foldl_countConfusion (m := OrderedMap.empty) (.inr h))
  have hd := getD_foldl_countConfusion a b sites OrderedMap.empty
  rw [hf, Option.getD_some] at hd
  rw [Survey.ofSites, hf, hd]
  rfl

end Survey

/-! ### Candidates -/

/-- The candidates are the instances of the templates at the wrongly tagged places. -/
theorem mem_candidates {templates : List Template} {sites : List Site} {c : Candidate} :
    c ∈ Candidate.all templates sites ↔
      ∃ s ∈ sites, s.isWrong = true ∧ ∃ t, templates[c.rank]? = some t ∧
        ∃ context, t.instantiate s.view = some context ∧ c.rule = ⟨s.tag, s.gold, context⟩ := by
  constructor
  · intro h
    obtain ⟨s, hs, hc⟩ := List.mem_flatMap.mp h
    obtain ⟨hmem, hw⟩ := List.mem_filter.mp hs
    obtain ⟨t, ht, hctx⟩ := List.mem_filterMap.mp hc
    obtain ⟨context, hi, rfl⟩ := Option.map_eq_some_iff.mp hctx
    exact ⟨s, hmem, hw, t.1, List.mem_zipIdx_iff_getElem?.mp ht, context, hi, rfl⟩
  · rintro ⟨s, hs, hw, t, ht, context, hi, hr⟩
    refine List.mem_flatMap.mpr ⟨s, List.mem_filter.mpr ⟨hs, hw⟩, ?_⟩
    refine List.mem_filterMap.mpr ⟨(t, c.rank), List.mem_zipIdx_iff_getElem?.mpr ht, ?_⟩
    rw [hi, Option.map_some, ← hr]

/-- A candidate changes a tag into another one. -/
theorem source_ne_target_of_mem {templates : List Template} {sites : List Site} {c : Candidate}
    (h : c ∈ Candidate.all templates sites) : c.rule.source ≠ c.rule.target := by
  obtain ⟨s, -, hw, -, -, context, -, hr⟩ := mem_candidates.mp h
  rw [hr]
  exact of_decide_eq_true hw

/-- A condition that holds at a place is the instance of its template there. -/
theorem instantiate_template {v : View Seen} {c : Context} (h : c.holds v = true)
    (hc : c.template ≠ .prevOrPrevTwoTag) : c.template.instantiate v = some c := by
  cases c with
  | prevOrPrevTwoTag tag => exact absurd rfl hc
  | surroundTags prev next =>
    simp only [Context.holds, Bool.and_eq_true, decide_eq_true_eq] at h
    simp only [Context.template, Template.instantiate, h.1, h.2]
  | currentWord word =>
    simp only [Context.holds, decide_eq_true_eq] at h
    simp only [Context.template, Template.instantiate, h]
  | _ =>
    simp only [Context.holds, decide_eq_true_eq] at h
    simp only [Context.template, Template.instantiate, h, Option.map_some]

/-- A rule that corrects something is a candidate. -/
theorem exists_candidate {templates : List Template} {sites : List Site} {r : TransformRule}
    (hr : r.source ≠ r.target) (ht : r.context.template ∈ templates)
    (hc : r.context.template ≠ .prevOrPrevTwoTag) (hg : 0 < (r.scoreOn sites).good) :
    ∃ c ∈ Candidate.all templates sites, c.rule = r := by
  obtain ⟨s, hs, hw, htag, hgold, hh⟩ := exists_corrected hr hg
  obtain ⟨rank, hrank⟩ := List.mem_iff_getElem?.mp ht
  refine ⟨⟨rank, r⟩, mem_candidates.mpr ⟨s, hs, hw, _, hrank, r.context, ?_, ?_⟩, rfl⟩
  · exact instantiate_template hh hc
  · rw [htag, hgold]

/-! ### The search -/

/-- Tries a rule against the best one so far by its score on all places. -/
def rival (sites : List Site) (best : Best) (r : TransformRule) : Best :=
  if best.net < (r.scoreOn sites).net then some (r, r.scoreOn sites) else best

/-- What the survey passes over could not have won. -/
theorem challenge_eq_rival {templates : List Template} {sites : List Site} {c : Candidate}
    (hc : c ∈ Candidate.all templates sites) (best : Best) :
    (Survey.ofSites sites).challenge best c = rival sites best c.rule := by
  have hne := source_ne_target_of_mem hc
  obtain ⟨s, hs, hw, -, -, context, -, hr⟩ := mem_candidates.mp hc
  have hsource : ∃ s ∈ sites, s.tag = c.rule.source := ⟨s, hs, by rw [hr]⟩
  have hwrong : ∃ s ∈ sites, s.isWrong = true ∧ s.tag = c.rule.source ∧ s.gold = c.rule.target :=
    ⟨s, hs, hw, by rw [hr], by rw [hr]⟩
  have hplaces := get?_places hsource
  have hconf := get?_confusions hwrong
  have hscore : c.rule.scoreOn (sites.filter fun s => s.tag = c.rule.source).reverse =
      c.rule.scoreOn sites :=
    (scoreOn_perm (List.reverse_perm _)).trans (scoreOn_filter_source _ _)
  have hgood := good_le_countP hne sites
  simp only [Survey.challenge, hconf, hplaces, hscore, rival]
  split
  · next hle =>
    rw [if_neg]
    rw [Score.net]
    omega
  · rfl

/-- The search over the survey is the plain one. -/
theorem bestRule_eq_foldl_rival (templates : List Template) (samples : List Sample) :
    bestRule templates samples =
      ((Candidate.all templates (allSites samples)).mergeSort Candidate.le).foldl
        (fun best c => rival (allSites samples) best c.rule) none := by
  refine List.foldl_ext _ _ _ fun best c hc => ?_
  exact challenge_eq_rival ((List.mergeSort_perm _ _).mem_iff.mp hc) best

/-- The best of some rules: one of them with its score, which is positive and not exceeded. -/
structure IsBest (sites : List Site) (rules : List TransformRule) (best : Best) : Prop where
  isRule : ∀ r score, best = some (r, score) →
    r ∈ rules ∧ score = r.scoreOn sites ∧ 0 < score.net
  net_le : ∀ r ∈ rules, (r.scoreOn sites).net ≤ best.net
  net_nonneg : 0 ≤ best.net

/-- The first of some candidates with the highest net score, if that is positive: those before it
have a lower one, and those behind it none that is higher. -/
inductive FirstBest (sites : List Site) : List Candidate → Best → Prop
  | nothing {seen : List Candidate} :
      (∀ d ∈ seen, (d.rule.scoreOn sites).net ≤ 0) → FirstBest sites seen none
  | found {before after : List Candidate} {c : Candidate} :
      0 < (c.rule.scoreOn sites).net →
      (∀ d ∈ before, (d.rule.scoreOn sites).net < (c.rule.scoreOn sites).net) →
      (∀ d ∈ after, (d.rule.scoreOn sites).net ≤ (c.rule.scoreOn sites).net) →
        FirstBest sites (before ++ c :: after) (some (c.rule, c.rule.scoreOn sites))

/-- The first best candidate is beaten by none, before or behind it. -/
theorem net_le_of_mem {sites : List Site} {before after : List Candidate} {c d : Candidate}
    (hbefore : ∀ d ∈ before, (d.rule.scoreOn sites).net < (c.rule.scoreOn sites).net)
    (hafter : ∀ d ∈ after, (d.rule.scoreOn sites).net ≤ (c.rule.scoreOn sites).net)
    (hd : d ∈ before ++ c :: after) :
    (d.rule.scoreOn sites).net ≤ (c.rule.scoreOn sites).net := by
  rcases List.mem_append.mp hd with hd | hd
  · exact Int.le_of_lt (hbefore d hd)
  · rcases List.mem_cons.mp hd with rfl | hd
    · exact Int.le_refl _
    · exact hafter d hd

/-- Trying one more candidate. -/
theorem FirstBest.rival {sites : List Site} {seen : List Candidate} {best : Best}
    (h : FirstBest sites seen best) (c : Candidate) :
    FirstBest sites (seen ++ [c]) (rival sites best c.rule) := by
  rw [ShallowTransfer.rival]
  cases h with
  | nothing hseen =>
    rw [Best.net]
    by_cases hpos : 0 < (c.rule.scoreOn sites).net
    · rw [if_pos hpos]
      refine .found hpos (fun d hd => ?_) (fun d hd => nomatch hd)
      have := hseen d hd
      omega
    · rw [if_neg hpos]
      refine .nothing fun d hd => ?_
      rcases List.mem_append.mp hd with hd | hd
      · exact hseen d hd
      · rw [List.mem_singleton.mp hd]
        omega
  | @found before after b hpos hbefore hafter =>
    rw [Best.net]
    by_cases hlt : (b.rule.scoreOn sites).net < (c.rule.scoreOn sites).net
    · rw [if_pos hlt]
      refine .found (by omega) (fun d hd => ?_) (fun d hd => nomatch hd)
      have := net_le_of_mem hbefore hafter hd
      omega
    · rw [if_neg hlt, List.append_assoc, List.cons_append]
      refine .found hpos hbefore fun d hd => ?_
      rcases List.mem_append.mp hd with hd | hd
      · exact hafter d hd
      · rw [List.mem_singleton.mp hd]
        omega

/-- Trying candidates one after another. -/
theorem firstBest_foldl_rival {sites : List Site} (rest : List Candidate) :
    ∀ {seen : List Candidate} {best : Best}, FirstBest sites seen best →
      FirstBest sites (seen ++ rest) (rest.foldl (fun best c => rival sites best c.rule) best) := by
  induction rest with
  | nil => intro seen best h; rwa [List.append_nil]
  | cons c rest ih =>
    intro seen best h
    have hrest := ih (h.rival c)
    rwa [List.append_assoc, List.singleton_append] at hrest

/-- The search leaves the first best one of the candidates in their order. -/
theorem firstBest_bestRule (templates : List Template) (samples : List Sample) :
    FirstBest (allSites samples)
      ((Candidate.all templates (allSites samples)).mergeSort Candidate.le)
      (bestRule templates samples) := by
  have hstart : FirstBest (allSites samples) [] none := .nothing fun _ h => nomatch h
  have hend := firstBest_foldl_rival
    ((Candidate.all templates (allSites samples)).mergeSort Candidate.le) hstart
  rwa [List.nil_append, ← bestRule_eq_foldl_rival] at hend

/-- The first best one of some candidates is the best one of their rules. -/
theorem FirstBest.isBest {sites : List Site} {candidates : List Candidate} {best : Best}
    (h : FirstBest sites candidates best) :
    IsBest sites (candidates.map Candidate.rule) best := by
  cases h with
  | nothing hseen =>
    exact ⟨fun _ _ he => (nomatch he), List.forall_mem_map.mpr hseen, Int.le_refl 0⟩
  | @found before after c hpos hbefore hafter =>
    refine ⟨fun r score he => ?_, List.forall_mem_map.mpr fun d hd => ?_, Int.le_of_lt hpos⟩
    · cases he
      exact ⟨List.mem_map_of_mem (by simp), rfl, hpos⟩
    · exact net_le_of_mem hbefore hafter hd

/-- The best rule is the best of the candidates. -/
theorem isBest_bestRule (templates : List Template) (samples : List Sample) :
    IsBest (allSites samples)
      (((Candidate.all templates (allSites samples)).mergeSort Candidate.le).map Candidate.rule)
      (bestRule templates samples) :=
  (firstBest_bestRule templates samples).isBest

/-- The best rule is a candidate, with its score on all places, and corrects more than it breaks. -/
theorem bestRule_eq_some {templates : List Template} {samples : List Sample} {r : TransformRule}
    {score : Score} (h : bestRule templates samples = some (r, score)) :
    (∃ c ∈ Candidate.all templates (allSites samples), c.rule = r) ∧
      score = r.scoreOn (allSites samples) ∧ 0 < score.net := by
  obtain ⟨hm, hrest⟩ := (isBest_bestRule templates samples).isRule r score h
  obtain ⟨c, hc, hr⟩ := List.mem_map.mp hm
  exact ⟨⟨c, (List.mergeSort_perm _ _).mem_iff.mp hc, hr⟩, hrest⟩

/-- No rule of a template beats the best rule, be it a candidate or not. -/
theorem net_le_bestRule {templates : List Template} {samples : List Sample} {r : TransformRule}
    (hr : r.source ≠ r.target) (ht : r.context.template ∈ templates)
    (hc : r.context.template ≠ .prevOrPrevTwoTag) :
    (r.scoreOn (allSites samples)).net ≤ (bestRule templates samples).net := by
  have hbest := isBest_bestRule templates samples
  by_cases hg : 0 < (r.scoreOn (allSites samples)).good
  · obtain ⟨c, hcand, hrule⟩ := exists_candidate hr ht hc hg
    refine hbest.net_le r (List.mem_map.mpr ⟨c, ?_, hrule⟩)
    exact (List.mergeSort_perm _ _).mem_iff.mpr hcand
  · refine Int.le_trans ?_ hbest.net_nonneg
    rw [Score.net]
    omega

end ShallowTransfer
