import ShallowTransfer.Proofs.OrderedMap
import ShallowTransfer.Proofs.Tag.Numbering
import ShallowTransfer.Proofs.Tagging.Rounds
import ShallowTransfer.Proofs.Traversal

/-!
Known tags. A lexicon only gives numbers that belong to its tag set, and so do the tags of a corpus
that a learner accepts. Learned rules are made of such numbers: their source and their condition are
read off the samples, and their target is a tag that should be there. So every rule fits the tag set
of the lexicon, and it leaves samples with known tags behind.
-/

namespace ShallowTransfer

namespace Lexicon

/-! ### The lexicon -/

/-- The lexicons there are: made of words with their tags, or of a corpus. -/
inductive Built : Lexicon → Prop
  | ofEntries {tagSet : TagSet} {entries : List (String × Tag)} {options : LexiconOptions}
      {l : Lexicon} : tagSet.Built → ofEntries tagSet entries options = .ok l → Built l
  | ofCorpus {corpus : Corpus} {options : LexiconOptions} {l : Lexicon} :
      ofCorpus corpus options = .ok l → Built l

/-- A lexicon that only gives numbers of its tag set, which is numbered one to one. -/
structure Known (l : Lexicon) : Prop where
  numbered : l.tagSet.Numbered
  contains : ∀ word id, l.words.get? word = some id → l.tagSet.contains id = true

/-- A resolved entry has the number of its tag. -/
theorem resolve_eq_ok {tagSet : TagSet} {entry : String × Tag} {e : String × TagId}
    (h : resolve tagSet entry = .ok e) : tagSet.id? entry.2 = some e.2 := by
  rw [resolve] at h
  split at h
  · next hid => cases h; exact hid
  · cases h

/-- A resolved entry has the same word. -/
theorem fst_of_resolve {tagSet : TagSet} {entry : String × Tag} {e : String × TagId}
    (h : resolve tagSet entry = .ok e) : e.1 = entry.1 := by
  rw [resolve] at h
  split at h
  · cases h; rfl
  · cases h

/-- Resolved entries have the same words. -/
theorem map_fst_of_mapM_resolve {tagSet : TagSet} {entries : List (String × Tag)}
    {numbered : List (String × TagId)} (h : entries.mapM (resolve tagSet) = .ok numbered) :
    numbered.map Prod.fst = entries.map Prod.fst := by
  rw [← List.forall₂_eq_eq_eq, List.forall₂_map_left_iff, List.forall₂_map_right_iff]
  exact (mapM_eq_ok_iff.mp h).flip.imp fun _ _ hres => fst_of_resolve hres

/-- A lexicon of words with tags holds the resolved entries. -/
theorem ofEntries_eq_ok {tagSet : TagSet} {entries : List (String × Tag)}
    {options : LexiconOptions} {l : Lexicon} (h : ofEntries tagSet entries options = .ok l) :
    ∃ numbered, entries.mapM (resolve tagSet) = .ok numbered ∧
      l = ⟨tagSet, OrderedMap.ofList (numbered.mergeSort entryLe), options⟩ := by
  obtain ⟨numbered, hm, h⟩ := bind_eq_ok_iff.mp h
  cases h
  exact ⟨numbered, hm, rfl⟩

/-- A lexicon of a corpus is one of words with tags, over a tag set that is made of tags. -/
theorem ofCorpus_eq_ok {corpus : Corpus} {options : LexiconOptions} {l : Lexicon}
    (h : ofCorpus corpus options = .ok l) :
    ∃ tags tagSet entries, TagSet.build tags options.fallbackTag = .ok tagSet ∧
      ofEntries tagSet entries options = .ok l := by
  simp only [Lexicon.ofCorpus] at h
  split at h
  · cases h
  · next hb => exact ⟨_, _, _, hb, h⟩

/-- A lexicon of words with tags of a tag set gives numbers of that tag set. -/
theorem known_of_ofEntries {tagSet : TagSet} {entries : List (String × Tag)}
    {options : LexiconOptions} {l : Lexicon} (hs : tagSet.Numbered)
    (h : ofEntries tagSet entries options = .ok l) : l.Known := by
  obtain ⟨numbered, hm, rfl⟩ := ofEntries_eq_ok h
  refine ⟨hs, fun word id hget => ?_⟩
  rcases OrderedMap.mem_of_get?_foldl_insert hget with hmem | hnone
  · rw [(List.mergeSort_perm _ _).mem_iff] at hmem
    obtain ⟨entry, -, hres⟩ := exists_of_mem_forall₂ (mapM_eq_ok_iff.mp hm) hmem
    exact TagSet.contains_of_id? hs (resolve_eq_ok hres)
  · cases hnone

/-- Every lexicon only gives numbers of its tag set. -/
theorem Built.known {l : Lexicon} (h : l.Built) : l.Known := by
  cases h with
  | ofEntries hs h => exact known_of_ofEntries hs.numbered h
  | ofCorpus h =>
    obtain ⟨_, _, _, hbuild, h⟩ := ofCorpus_eq_ok h
    exact known_of_ofEntries (TagSet.numbered_of_build hbuild) h

/-- The first guess for a word is a tag of the tag set. -/
theorem Known.contains_lookup {l : Lexicon} (h : l.Known) (word : String) :
    l.tagSet.contains (l.lookup word).1 = true := by
  have hfallback := TagSet.contains_fallback h.numbered
  rw [lookup]
  split
  · next hw => exact h.contains _ _ hw
  · dsimp only
    split
    · split
      · next hw => exact h.contains _ _ hw
      · exact hfallback
    · exact hfallback

end Lexicon

namespace Sample

/-! ### Samples -/

/-- A sample whose tags, those it has and those it should have, belong to the tag set. -/
structure Known (tagSet : TagSet) (s : Sample) : Prop where
  seen : ∀ x ∈ s.seen, tagSet.contains x.tag = true
  gold : ∀ g ∈ s.gold, tagSet.contains g = true

variable {tagSet : TagSet}

/-- The sample of a sentence has the first guesses, and the tags it should have are those of the
sentence. -/
theorem ofSentence_eq_ok {lexicon : Lexicon} {sentence : List (String × Tag)} {s : Sample}
    (h : ofSentence lexicon sentence = .ok s) :
    s.seen = (Tagging.initial lexicon (sentence.map (·.1))).seen ∧
      List.Forall₂ (fun entry g => lexicon.tagSet.id? entry.2 = some g) sentence s.gold := by
  rw [ofSentence] at h
  cases hm : sentence.mapM (fun entry => (Lexicon.resolve lexicon.tagSet entry).map (·.2)) with
  | error e => rw [hm] at h; cases h
  | ok gold =>
    rw [hm] at h
    cases h
    refine ⟨rfl, (mapM_eq_ok_iff.mp hm).imp fun entry g hg => ?_⟩
    obtain ⟨e, he, rfl⟩ := map_eq_ok_iff.mp hg
    exact Lexicon.resolve_eq_ok he

/-- The words of a sentence with their first guesses. -/
theorem seen_initial (lexicon : Lexicon) (words : List String) :
    (Tagging.initial lexicon words).seen =
      words.map fun w => ⟨Text.lowercase w, (lexicon.lookup w).1⟩ := by
  rw [Tagging.initial, List.zipWith_map_right, List.zipWith_self]

/-- The sample of a sentence has known tags. -/
theorem known_ofSentence {lexicon : Lexicon} {sentence : List (String × Tag)} {s : Sample}
    (hl : lexicon.Known) (h : ofSentence lexicon sentence = .ok s) : s.Known lexicon.tagSet := by
  obtain ⟨hseen, hgold⟩ := ofSentence_eq_ok h
  refine ⟨fun x hx => ?_, fun g hg => ?_⟩
  · rw [hseen, seen_initial] at hx
    obtain ⟨w, -, rfl⟩ := List.mem_map.mp hx
    exact hl.contains_lookup w
  · obtain ⟨entry, -, hid⟩ := exists_of_mem_forall₂ hgold hg
    exact TagSet.contains_of_id? hl.numbered hid

/-- A rule with a known target leaves known tags. -/
theorem Known.apply {s : Sample} (h : s.Known tagSet) {r : TransformRule}
    (hr : tagSet.contains r.target = true) : (s.apply r).Known tagSet := by
  refine ⟨fun x hx => ?_, h.gold⟩
  obtain ⟨v, hv, rfl⟩ := List.mem_map.mp hx
  rw [TransformRule.retag]
  split
  · exact hr
  · exact h.seen _ (mem_of_mem_views hv (.inr (.inl rfl)))

end Sample

/-! ### Rules -/

theorem TransformRule.source_mem_tagIds (r : TransformRule) : r.source ∈ r.tagIds :=
  List.mem_cons_self

theorem TransformRule.target_mem_tagIds (r : TransformRule) : r.target ∈ r.tagIds :=
  List.mem_cons_of_mem _ List.mem_cons_self

/-- A tag that is read off a list stands in it. -/
theorem Context.exists_of_tagAt {xs : List Seen} {n : Nat} {id : TagId}
    (h : Context.tagAt xs n = some id) : ∃ x ∈ xs, x.tag = id := by
  obtain ⟨x, hx, rfl⟩ := Option.map_eq_some_iff.mp h
  exact ⟨x, List.mem_of_getElem? hx, rfl⟩

/-- A condition made at a place speaks of tags around that place. -/
theorem Template.exists_of_mem_tagIds {v : View Seen} {t : Template} {c : Context} {id : TagId}
    (h : t.instantiate v = some c) (hid : id ∈ c.tagIds) :
    ∃ x, (x ∈ v.left ∨ x ∈ v.right) ∧ x.tag = id := by
  have hleft : ∀ {n i}, Context.tagAt v.left n = some i →
      ∃ x, (x ∈ v.left ∨ x ∈ v.right) ∧ x.tag = i := fun ht =>
    (Context.exists_of_tagAt ht).imp fun _ hx => ⟨.inl hx.1, hx.2⟩
  have hright : ∀ {n i}, Context.tagAt v.right n = some i →
      ∃ x, (x ∈ v.left ∨ x ∈ v.right) ∧ x.tag = i := fun ht =>
    (Context.exists_of_tagAt ht).imp fun _ hx => ⟨.inr hx.1, hx.2⟩
  cases t with
  | surroundTags =>
    rw [Template.instantiate] at h
    split at h
    · next hprev hnext =>
      cases h
      rcases List.mem_cons.mp hid with rfl | hid
      · exact hleft hprev
      · rw [List.mem_singleton.mp hid]
        exact hright hnext
    · cases h
  | prevWord | nextWord =>
    obtain ⟨word, -, rfl⟩ := Option.map_eq_some_iff.mp h
    cases hid
  | currentWord => cases h; cases hid
  | prevTag | prevTwoTag | prevOrPrevTwoTag =>
    obtain ⟨tag, ht, rfl⟩ := Option.map_eq_some_iff.mp h
    rw [List.mem_singleton.mp hid]
    exact hleft ht
  | nextTag | nextTwoTag =>
    obtain ⟨tag, ht, rfl⟩ := Option.map_eq_some_iff.mp h
    rw [List.mem_singleton.mp hid]
    exact hright ht

/-- The place of a sample is a place of its words, and its right tag one of the sample. -/
theorem Sample.mem_of_mem_sites {s : Sample} {p : Site} (h : p ∈ s.sites) :
    p.view ∈ views s.seen ∧ p.gold ∈ s.gold := by
  rw [Sample.sites, ← List.map_uncurry_zip_eq_zipWith] at h
  obtain ⟨e, he, rfl⟩ := List.mem_map.mp h
  exact ⟨List.of_mem_zip he |>.1, List.of_mem_zip he |>.2⟩

/-- The candidates on known samples are made of known tags. -/
theorem contains_of_mem_candidates {tagSet : TagSet} {templates : List Template}
    {samples : List Sample} (hs : ∀ s ∈ samples, s.Known tagSet) {c : Candidate}
    (hc : c ∈ Candidate.all templates (allSites samples)) {id : TagId}
    (hid : id ∈ c.rule.tagIds) : tagSet.contains id = true := by
  obtain ⟨p, hp, -, t, -, context, hi, hr⟩ := mem_candidates.mp hc
  obtain ⟨s, hmem, hsite⟩ := List.mem_flatMap.mp hp
  obtain ⟨hview, hgold⟩ := Sample.mem_of_mem_sites hsite
  have hknown := hs s hmem
  rw [hr, TransformRule.tagIds, List.mem_cons, List.mem_cons] at hid
  rcases hid with rfl | rfl | hid
  · exact hknown.seen _ (mem_of_mem_views hview (.inr (.inl rfl)))
  · exact hknown.gold _ hgold
  · obtain ⟨x, hx, rfl⟩ := t.exists_of_mem_tagIds hi hid
    refine hknown.seen x (mem_of_mem_views hview ?_)
    exact hx.imp id .inr

/-- The rules of a run on known samples are made of known tags. -/
theorem Learner.Run.contains {l : Learner} {tagSet : TagSet} {learned : Nat}
    {samples : List Sample} {lessons : List Lesson} (h : Learner.Run l learned samples lessons)
    (hs : ∀ s ∈ samples, s.Known tagSet) :
    ∀ lesson ∈ lessons, ∀ id ∈ lesson.rule.tagIds, tagSet.contains id = true := by
  induction h with
  | stop _ => exact fun _ hl => nomatch hl
  | keep hnext _ ih =>
    obtain ⟨-, hbest, -⟩ := Learner.nextRule?_eq_some hnext
    obtain ⟨⟨c, hc, rfl⟩, -, -⟩ := bestRule_eq_some hbest
    have hids : ∀ id ∈ c.rule.tagIds, tagSet.contains id = true := fun id hid =>
      contains_of_mem_candidates hs hc hid
    have hnext : ∀ s ∈ _, Sample.Known tagSet s := List.forall_mem_map.mpr fun s hmem =>
      (hs s hmem).apply (hids _ c.rule.target_mem_tagIds)
    intro lesson hl
    rcases List.mem_cons.mp hl with rfl | hl
    · exact hids
    · exact ih hnext lesson hl

/-- Rules made of known tags pass the check. -/
theorem RuleList.check_eq_ok {tagSet : TagSet} {rules : List TransformRule}
    (h : ∀ r ∈ rules, ∀ id ∈ r.tagIds, tagSet.contains id = true) :
    RuleList.check ⟨rules⟩ tagSet = .ok () := by
  have hnone : ∀ index, RuleList.firstUnknown tagSet index rules = none := by
    induction rules with
    | nil => exact fun _ => rfl
    | cons r rest ih =>
      intro index
      have hr : (r.tagIds.find? fun id => !tagSet.contains id) = none := by
        rw [List.find?_eq_none]
        intro id hid
        rw [h r List.mem_cons_self id hid]
        decide
      rw [RuleList.firstUnknown, hr]
      exact ih (fun r' hr' => h r' (List.mem_cons_of_mem _ hr')) (index + 1)
  rw [RuleList.check, hnone]

/-- A check that passes has found all numbers in the tag set. -/
theorem RuleList.contains_of_check {tagSet : TagSet} {rules : List TransformRule}
    (h : RuleList.check ⟨rules⟩ tagSet = .ok ()) :
    ∀ r ∈ rules, ∀ id ∈ r.tagIds, tagSet.contains id = true := by
  have hnone : ∀ (rules : List TransformRule) (index : Nat),
      firstUnknown tagSet index rules = none →
        ∀ r ∈ rules, ∀ id ∈ r.tagIds, tagSet.contains id = true := by
    intro rules
    induction rules with
    | nil => exact fun _ _ _ hr => nomatch hr
    | cons r rest ih =>
      intro index h
      rw [firstUnknown] at h
      split at h
      · cases h
      · next hfind =>
        refine List.forall_mem_cons.mpr ⟨fun id hid => ?_, ih _ h⟩
        simpa using List.find?_eq_none.mp hfind id hid
  rw [check] at h
  split at h
  · cases h
  · next hfirst => exact hnone rules 0 hfirst

/-- Every rule of a tagger is made of tags of its tag set. -/
theorem Tagger.contains_of_mem_rules (t : Tagger) :
    ∀ r ∈ t.rules.rules, ∀ id ∈ r.tagIds, t.tagSet.contains id = true :=
  RuleList.contains_of_check t.fits

/-- A tagger can be made of rules that pass the check. -/
theorem Tagger.ofRules_eq_ok {lexicon : Lexicon} {rules : RuleList}
    (h : rules.check lexicon.tagSet = .ok ()) :
    Tagger.ofRules lexicon rules = .ok ⟨lexicon, rules, h⟩ := by
  rw [Tagger.ofRules]
  split
  · rfl
  · next he => rw [h] at he; cases he

end ShallowTransfer
