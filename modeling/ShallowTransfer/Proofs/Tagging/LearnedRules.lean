import ShallowTransfer.Proofs.Tagging.Replay

/-!
What a learner says. A corpus is refused for its first tag that the lexicon does not know
(`Learner.error?_learn`), and for nothing else. The rules that are learned otherwise are made for
one of the templates, change a tag into another one, and fit the tag set of the lexicon
(`Learner.learned_rules_fit`).
-/

namespace ShallowTransfer

/-! ### Unknown tags -/

theorem TagSet.id?_eq_none_iff {s : TagSet} {tag : Tag} : s.id? tag = none ↔ tag ∉ s.names := by
  rw [TagSet.id?, Option.map_eq_none_iff, List.idxOf?_eq_none_iff]

/-- The first entry whose tag is no tag of the tag set. -/
def TagSet.firstForeign? (s : TagSet) (entries : List (String × Tag)) : Option (String × Tag) :=
  entries.find? fun entry => entry.2 ∉ s.names

theorem TagSet.exists_firstForeign?_iff {s : TagSet} {entries : List (String × Tag)} :
    (∃ entry, s.firstForeign? entries = some entry) ↔
      ∃ entry ∈ entries, entry.2 ∉ s.names := by
  rw [← Option.isSome_iff_exists, firstForeign?, List.find?_isSome]
  simp only [decide_eq_true_eq]

theorem TagSet.firstForeign?_eq_none_iff {s : TagSet} {entries : List (String × Tag)} :
    s.firstForeign? entries = none ↔ ∀ entry ∈ entries, entry.2 ∈ s.names := by
  rw [firstForeign?, List.find?_eq_none]
  simp only [decide_eq_true_eq, not_not]

theorem TagSet.foreign_of_firstForeign? {s : TagSet} {entries : List (String × Tag)}
    {entry : String × Tag} (h : s.firstForeign? entries = some entry) :
    entry ∈ entries ∧ entry.2 ∉ s.names :=
  ⟨List.mem_of_find?_eq_some h, by simpa using List.find?_some h⟩

/-- What is refused for the first foreign tag of some entries, and for nothing else, succeeds
exactly if all their tags are known. -/
theorem TagSet.succeeds_iff {α : Type} {s : TagSet} {entries : List (String × Tag)}
    {x : Except Error α}
    (h : error? x = (s.firstForeign? entries).map fun entry => .unknownTag entry.2) :
    ((∃ a, x = .ok a) ↔ ∀ entry ∈ entries, entry.2 ∈ s.names) ∧
      ∀ e, x = .error e → ∃ entry ∈ entries, entry.2 ∉ s.names ∧ e = .unknownTag entry.2 := by
  constructor
  · rw [← error?_eq_none_iff, h, Option.map_eq_none_iff, firstForeign?_eq_none_iff]
  · intro e he
    obtain ⟨entry, hfirst, rfl⟩ :=
      Option.map_eq_some_iff.mp (h.symm.trans (error?_eq_some_iff.mpr he))
    obtain ⟨hmem, hforeign⟩ := foreign_of_firstForeign? hfirst
    exact ⟨entry, hmem, hforeign, rfl⟩

/-- An entry is resolved unless its tag is no tag of the tag set. -/
theorem Lexicon.error?_resolve (s : TagSet) (entry : String × Tag) :
    error? (resolve s entry) = if entry.2 ∉ s.names then some (.unknownTag entry.2) else none := by
  rw [resolve]
  split
  · next hid =>
    have hmem : ¬ entry.2 ∉ s.names := fun hnot => by
      rw [TagSet.id?_eq_none_iff.mpr hnot] at hid
      cases hid
    rw [if_neg hmem]
    rfl
  · next hnone =>
    rw [if_pos (TagSet.id?_eq_none_iff.mp hnone)]
    rfl

/-- Entries are resolved up to the first foreign tag. -/
theorem Lexicon.findSome?_error?_resolve (s : TagSet) (entries : List (String × Tag)) :
    (entries.findSome? fun entry => error? (resolve s entry)) =
      (s.firstForeign? entries).map fun entry => .unknownTag entry.2 := by
  rw [TagSet.firstForeign?, List.find?_eq_findSome?_guard, List.map_findSome?]
  simp only [Lexicon.error?_resolve]
  refine congrArg (List.findSome? · entries) (funext fun entry => ?_)
  by_cases hmem : entry.2 ∈ s.names <;> simp [Option.guard, hmem]

/-- Words with tags are refused for their first foreign tag. -/
theorem Lexicon.error?_ofEntries (s : TagSet) (entries : List (String × Tag))
    (options : LexiconOptions) : error? (ofEntries s entries options) =
      (s.firstForeign? entries).map fun entry => .unknownTag entry.2 := by
  rw [ofEntries, error?_bind_ok, error?_mapM, findSome?_error?_resolve]

/-- Words whose tags are all known make a lexicon over the tag set. -/
theorem Lexicon.exists_ofEntries {s : TagSet} {entries : List (String × Tag)}
    (h : ∀ entry ∈ entries, entry.2 ∈ s.names) (options : LexiconOptions) :
    ∃ l, ofEntries s entries options = .ok l ∧ l.tagSet = s := by
  obtain ⟨l, hl⟩ := (TagSet.succeeds_iff (error?_ofEntries s entries options)).1.mpr h
  obtain ⟨_, -, rfl⟩ := ofEntries_eq_ok hl
  exact ⟨_, hl, rfl⟩

/-- A sentence is refused for its first foreign tag. -/
theorem Sample.error?_ofSentence (lexicon : Lexicon) (sentence : List (String × Tag)) :
    error? (ofSentence lexicon sentence) =
      (lexicon.tagSet.firstForeign? sentence).map fun entry => .unknownTag entry.2 := by
  rw [ofSentence, error?_bind_ok, error?_mapM]
  simp only [error?_map, Lexicon.findSome?_error?_resolve]

/-- A corpus is refused for its first foreign tag. -/
theorem Learner.error?_learn (l : Learner) (corpus : Corpus) (lexicon : Lexicon) :
    error? (l.learn corpus lexicon) =
      (lexicon.tagSet.firstForeign? corpus.flatten).map fun entry => .unknownTag entry.2 := by
  rw [learn, error?_bind_ok, error?_mapM, TagSet.firstForeign?, List.find?_flatten,
    List.map_findSome?]
  simp only [Sample.error?_ofSentence, TagSet.firstForeign?]
  rfl

/-- A corpus that is refused is refused for its first foreign tag. -/
theorem Learner.learn_eq_error_iff {l : Learner} {corpus : Corpus} {lexicon : Lexicon} {e : Error} :
    l.learn corpus lexicon = .error e ↔
      ∃ entry, lexicon.tagSet.firstForeign? corpus.flatten = some entry ∧
        e = .unknownTag entry.2 := by
  rw [← error?_eq_some_iff, error?_learn, Option.map_eq_some_iff]
  exact exists_congr fun entry => and_congr_right' eq_comm

/-! ### Rules of the templates -/

/-- The instance of a template belongs to the template. -/
theorem Template.template_of_instantiate {v : View Seen} {t : Template} {c : Context}
    (h : t.instantiate v = some c) : c.template = t := by
  cases t with
  | surroundTags =>
    rw [instantiate] at h
    split at h
    · cases h; rfl
    · cases h
  | currentWord => cases h; rfl
  | prevWord | nextWord | prevTag | nextTag | prevTwoTag | nextTwoTag | prevOrPrevTwoTag =>
    obtain ⟨_, -, rfl⟩ := Option.map_eq_some_iff.mp h
    rfl

/-- A candidate is made for one of the templates. -/
theorem template_mem_of_mem_candidates {templates : List Template} {sites : List Site}
    {c : Candidate} (h : c ∈ Candidate.all templates sites) :
    c.rule.context.template ∈ templates := by
  obtain ⟨s, -, -, t, ht, context, hi, hr⟩ := mem_candidates.mp h
  rw [hr, Template.template_of_instantiate hi]
  exact List.mem_of_getElem? ht

namespace Learner

/-- Every rule of a run is a candidate where it is learned. -/
theorem Run.exists_candidate {l : Learner} {learned : Nat} {samples : List Sample}
    {lessons : List Lesson} (h : Run l learned samples lessons) {lesson : Lesson}
    (hl : lesson ∈ lessons) :
    ∃ sites, ∃ c ∈ Candidate.all l.options.templates sites, c.rule = lesson.rule := by
  obtain ⟨k, hk⟩ := List.mem_iff_getElem?.mp hl
  obtain ⟨-, hbest, -⟩ := nextRule?_eq_some (h.nextRule?_lesson hk).1
  exact ⟨_, (bestRule_eq_some hbest).1⟩

/-- Every rule that is learned is made for one of the templates, and changes a tag into another
one. -/
theorem template_mem_of_mem_study {l : Learner} {samples : List Sample} {r : TransformRule}
    (hr : r ∈ (l.study samples).rules.rules) :
    r.context.template ∈ l.options.templates ∧ r.source ≠ r.target := by
  obtain ⟨lesson, hl, rfl⟩ := List.mem_map.mp hr
  obtain ⟨sites, c, hc, hrule⟩ := (run_study l samples).exists_candidate hl
  rw [← hrule]
  exact ⟨template_mem_of_mem_candidates hc, source_ne_target_of_mem hc⟩

/-- With a lexicon that was made, what is learned from a corpus makes a tagger with this lexicon;
every rule is made for one of the templates, and changes a tag into another one. A corpus is refused
exactly if one of its tags is no tag of the lexicon, and then for the first such tag. -/
theorem learned_rules_fit {lexicon : Lexicon} (hl : lexicon.Built) (l : Learner)
    (corpus : Corpus) :
    (∀ course, l.learn corpus lexicon = .ok course →
      (∃ t, Tagger.ofRules lexicon course.rules = .ok t) ∧
        ∀ r ∈ course.rules.rules,
          r.context.template ∈ l.options.templates ∧ r.source ≠ r.target) ∧
    ((∃ e, l.learn corpus lexicon = .error e) ↔
      ∃ entry ∈ corpus.flatten, entry.2 ∉ lexicon.tagSet.names) ∧
    ∀ e, l.learn corpus lexicon = .error e ↔
      ∃ entry, lexicon.tagSet.firstForeign? corpus.flatten = some entry ∧
        e = .unknownTag entry.2 := by
  refine ⟨fun course h => ?_, ?_, fun e => learn_eq_error_iff⟩
  · obtain ⟨samples, hs, rfl⟩ := learn_eq_ok h
    refine ⟨?_, fun r hr => template_mem_of_mem_study hr⟩
    obtain ⟨t, ht, -⟩ := exists_tagger hl.known hs (Nat.le_refl (l.study samples).lessons.length)
    have hall : (l.study samples).rules.rules.take (l.study samples).lessons.length =
        (l.study samples).rules.rules :=
      List.take_of_length_le (Nat.le_of_eq (List.length_map _))
    rw [hall] at ht
    exact ⟨t, ht⟩
  · simp only [learn_eq_error_iff, ← TagSet.exists_firstForeign?_iff]
    exact ⟨fun ⟨_, entry, hfirst, _⟩ => ⟨entry, hfirst⟩,
      fun ⟨entry, hfirst⟩ => ⟨_, entry, hfirst, rfl⟩⟩

/-- A rule is learned that makes a tagger; and of a corpus with two unknown tags the first one is
told, though the other one comes first by name. -/
theorem learned_rules_fit_twoSentences :
    (∃ t, Tagger.ofRules oneWord ⟨[⟨1, 2, .prevTag 0⟩]⟩ = .ok t) ∧
      (prevTagLearner 1 (by decide)).learn [[("a", "x")], [("b", "z"), ("c", "y")]] oneWord =
        .error (.unknownTag "z") := by
  obtain ⟨hfits, -⟩ := learned_rules_fit oneWord_built (prevTagLearner 1 (by decide)) twoSentences
  obtain ⟨-, -, herror⟩ := learned_rules_fit oneWord_built (prevTagLearner 1 (by decide))
    [[("a", "x")], [("b", "z"), ("c", "y")]]
  exact ⟨(hfits _ learn_twoSentences).1, (herror _).mpr ⟨("b", "z"), by decide, rfl⟩⟩

end Learner

end ShallowTransfer
