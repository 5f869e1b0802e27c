import ShallowTransfer.Json.Tagging
import ShallowTransfer.Proofs.Tagging.Neighbours
import ShallowTransfer.Proofs.Wire.Recovery

/-!
The tags of the lexicon. Reading a tagger checks the numbers in its rules, but not those in its
lexicon, which only the makers of lexica check. So a lexicon that was read may have a word whose
number belongs to no tag. No rule ever changes such a word, as rules speak of known tags only
(`Keeps.step`): it is given the tag for unknown words, and its origin is the lexicon all the same.
All tokens from the lexicon have their stored tags exactly where all numbers in the lexicon belong
to tags (`Tagger.stored_tags_iff`).
-/

namespace ShallowTransfer

open WireForm (write)

/-! ### Words that no rule changes -/

/-- A tagging where the words from the lexicon still have their first guesses, and so have all words
whose first guess is no tag of the tag set. -/
structure Tagging.Keeps (l : Lexicon) (words : List String) (t : Tagging) : Prop where
  of_lexicon : ∀ e ∈ words.zip (t.seen.zip t.origins), e.2.2 = .lexicon →
    e.2.1.tag = (l.lookup e.1).1
  of_unknown : ∀ e ∈ words.zip (t.seen.zip t.origins), l.tagSet.contains (l.lookup e.1).1 = false →
    e.2.1.tag = (l.lookup e.1).1 ∧ e.2.2 = (l.lookup e.1).2

namespace Tagging

variable {l : Lexicon} {words : List String} {t : Tagging}

theorem keeps_initial (l : Lexicon) (words : List String) : (initial l words).Keeps l words := by
  have hrow : words.zip ((initial l words).seen.zip (initial l words).origins) =
      words.map fun w => (w, (⟨Text.lowercase w, (l.lookup w).1⟩, (l.lookup w).2)) := by
    rw [← row, row_initial]
    conv_lhs => rw [← List.map_id words]
    rw [List.map_map, List.zip_map']
    rfl
  have hwords : ∀ e ∈ words.zip ((initial l words).seen.zip (initial l words).origins),
      e.2.1.tag = (l.lookup e.1).1 ∧ e.2.2 = (l.lookup e.1).2 := by
    rw [hrow, List.forall_mem_map]
    exact fun w _ => ⟨rfl, rfl⟩
  exact ⟨fun e he _ => (hwords e he).1, fun e he _ => hwords e he⟩

/-- A rule of known tags changes no word whose first guess is no tag, and says of those that it
changes where their tags come from. -/
theorem Keeps.step (h : t.Keeps l words) {rule : TransformRule × Nat}
    (hrule : l.tagSet.contains rule.1.source = true) : (t.step rule).Keeps l words := by
  have hplace : ∀ w v o, (w, (v, o)) ∈ words.zip ((views t.seen).zip t.origins) →
      (w, (v.here, o)) ∈ words.zip (t.seen.zip t.origins) := by
    intro w v o hmem
    have hhere : (views t.seen).map View.here = t.seen := map_here_viewsAfter [] t.seen
    rw [← hhere, List.zip_map_left, List.zip_map_right]
    exact List.mem_map.mpr ⟨_, hmem, rfl⟩
  constructor
  · rw [← row, row_step, List.zip_map_right, List.forall_mem_map]
    rintro ⟨w, v, o⟩ hmem horigin
    by_cases hfires : rule.1.fires v = true
    · simp [hfires] at horigin
    · simp only [Prod.map, id, hfires, Bool.false_eq_true, if_false] at horigin
      have hold := h.of_lexicon _ (hplace w v o hmem) horigin
      simpa [TransformRule.retag, hfires] using hold
  · rw [← row, row_step, List.zip_map_right, List.forall_mem_map]
    rintro ⟨w, v, o⟩ hmem hunknown
    have hold := h.of_unknown _ (hplace w v o hmem) hunknown
    have hidle : rule.1.fires v = false := by
      have hne : v.here.tag ≠ rule.1.source := by
        rintro heq
        have hcontains : l.tagSet.contains (l.lookup w).1 = true := by
          rw [← hold.1, heq]
          exact hrule
        rw [Prod.map, id, hcontains] at hunknown
        cases hunknown
      rw [TransformRule.fires, decide_eq_false hne, Bool.false_and]
    simpa [TransformRule.retag, hidle] using hold

theorem Keeps.foldl_step {rules : List (TransformRule × Nat)}
    (hrules : ∀ r ∈ rules, l.tagSet.contains r.1.source = true) {t : Tagging}
    (h : t.Keeps l words) : (rules.foldl Tagging.step t).Keeps l words := by
  induction rules generalizing t with
  | nil => exact h
  | cons r rest ih =>
    rw [List.forall_mem_cons] at hrules
    exact ih hrules.2 (h.step hrules.1)

end Tagging

/-! ### Taggers -/

namespace Tagger

theorem keeps_run (t : Tagger) (tokens : List Token) :
    (t.run tokens t.indexedRules).Keeps t.lexicon (tokens.map Token.text) := by
  refine Tagging.Keeps.foldl_step (fun r hr => ?_) (Tagging.keeps_initial _ _)
  exact t.contains_of_mem_rules r.1 (List.fst_mem_of_mem_zipIdx hr) _ r.1.source_mem_tagIds

/-- A tagged token with the word that stands in its place. -/
theorem exists_of_mem_tag {t : Tagger} {tokens : List Token} {x : TaggedToken}
    (hx : x ∈ t.tag tokens) : ∃ id, x.tag = t.tagSet.nameOrFallback id ∧
      (x.origin = .lexicon → id = (t.lexicon.lookup x.text).1) ∧
      (t.tagSet.contains (t.lexicon.lookup x.text).1 = false →
        id = (t.lexicon.lookup x.text).1 ∧ x.origin = (t.lexicon.lookup x.text).2) := by
  have hkeeps := t.keeps_run tokens
  rw [tag, Tagging.finish] at hx
  obtain ⟨⟨token, seen, origin⟩, hmem, rfl⟩ := List.mem_map.mp hx
  have hword : (token.text, (seen, origin)) ∈ (tokens.map Token.text).zip
      ((t.run tokens t.indexedRules).seen.zip (t.run tokens t.indexedRules).origins) := by
    rw [List.zip_map_left]
    exact List.mem_map.mpr ⟨_, hmem, rfl⟩
  exact ⟨seen.tag, rfl, hkeeps.of_lexicon _ hword, hkeeps.of_unknown _ hword⟩

/-- A token from the lexicon has the tag that is stored for it, if its number belongs to a tag. -/
theorem name?_of_origin_lexicon {t : Tagger} {tokens : List Token} {x : TaggedToken}
    (hx : x ∈ t.tag tokens) (horigin : x.origin = .lexicon)
    (hknown : t.tagSet.contains (t.lexicon.lookup x.text).1 = true) :
    t.tagSet.name? (t.lexicon.lookup x.text).1 = some x.tag := by
  obtain ⟨id, htag, hlexicon, -⟩ := exists_of_mem_tag hx
  rw [htag, hlexicon horigin]
  exact TagSet.name?_eq_nameOrFallback hknown

/-- A word that the lexicon stores a number of no tag for has the tag of unknown words, and comes
from the lexicon. -/
theorem tag_of_unknown {t : Tagger} {tokens : List Token} {x : TaggedToken} (hx : x ∈ t.tag tokens)
    (hstored : (t.lexicon.lookup x.text).2 = .lexicon)
    (hunknown : t.tagSet.contains (t.lexicon.lookup x.text).1 = false) :
    x.tag = t.tagSet.fallbackName ∧ x.origin = .lexicon := by
  obtain ⟨id, htag, -, hkept⟩ := exists_of_mem_tag hx
  obtain ⟨hid, horigin⟩ := hkept hunknown
  have hnone : t.tagSet.name? id = none := by
    rw [hid, ← Option.not_isSome_iff_eq_none, ← TagSet.contains, hunknown]
    exact Bool.false_ne_true
  rw [htag, TagSet.nameOrFallback, hnone, horigin, hstored]
  exact ⟨rfl, rfl⟩

end Tagger

/-- A word that is found in the lexicon has a number there. -/
theorem Lexicon.exists_of_lookup {l : Lexicon} {word : String}
    (h : (l.lookup word).2 = .lexicon) :
    ∃ stored, l.words.get? stored = some (l.lookup word).1 := by
  rw [lookup] at h ⊢
  split
  · next hget => exact ⟨word, hget⟩
  · next hnone =>
    rw [hnone] at h
    dsimp only at h ⊢
    split
    · next hlower =>
      rw [if_pos hlower] at h
      split
      · next hget => exact ⟨_, hget⟩
      · next hnone => rw [hnone] at h; cases h
    · next hlower => rw [if_neg hlower] at h; cases h

namespace Tagger

/-- The taggers that are made and not read: of a lexicon and rules, or by training. -/
inductive Made : Tagger → Prop
  | ofRules {lexicon : Lexicon} {rules : RuleList} {t : Tagger} :
      lexicon.Built → ofRules lexicon rules = .ok t → Made t
  | train {l : Learner} {corpus : Corpus} {options : LexiconOptions} {t : Tagger} :
      l.train corpus options = .ok t → Made t

theorem lexicon_of_ofRules {lexicon : Lexicon} {rules : RuleList} {t : Tagger}
    (h : ofRules lexicon rules = .ok t) : t.lexicon = lexicon := by
  rw [ofRules] at h
  split at h
  · cases h; rfl
  · cases h

theorem Made.built {t : Tagger} (h : t.Made) : t.lexicon.Built := by
  cases h with
  | ofRules hl h => rwa [lexicon_of_ofRules h]
  | @train l corpus options _ h =>
    obtain ⟨lexicon, hlexicon, h⟩ := bind_eq_ok_iff.mp h
    obtain ⟨course, -, h⟩ := bind_eq_ok_iff.mp h
    split at h
    · next hmade =>
      cases h
      rw [lexicon_of_ofRules hmade]
      exact .ofCorpus hlexicon
    · cases h

/-- All numbers in the lexicon of the tagger belong to tags. -/
def Stored (t : Tagger) : Prop :=
  ∀ word id, t.lexicon.words.get? word = some id → t.tagSet.contains id = true

/-- Whatever it was made or read from, a tagger has rules of its own tags only. If it was made, the
numbers in its lexicon belong to its tags as well. They do exactly if every token that comes from
the lexicon has, in every sentence, the tag that is stored for it. -/
theorem stored_tags_iff (t : Tagger) :
    (∀ r ∈ t.rules.rules, ∀ id ∈ r.tagIds, t.tagSet.contains id = true) ∧
      (t.Made → t.Stored) ∧
      (t.Stored ↔ ∀ tokens, ∀ x ∈ t.tag tokens, x.origin = .lexicon →
        t.tagSet.name? (t.lexicon.lookup x.text).1 = some x.tag) := by
  refine ⟨t.contains_of_mem_rules, fun h => h.built.known.contains, ?_, ?_⟩
  · intro hstored tokens x hx horigin
    refine name?_of_origin_lexicon hx horigin ?_
    by_contra hunknown
    rw [Bool.not_eq_true] at hunknown
    obtain ⟨_, -, -, hkept⟩ := exists_of_mem_tag hx
    obtain ⟨word, hword⟩ := Lexicon.exists_of_lookup ((hkept hunknown).2.symm.trans horigin)
    rw [hstored word _ hword] at hunknown
    cases hunknown
  · intro htags word id hword
    have hlookup : t.lexicon.lookup word = (id, .lexicon) := by rw [Lexicon.lookup, hword]
    have htoken := t.map_token_tag [⟨word, 0⟩]
    by_contra hunknown
    rw [Bool.not_eq_true] at hunknown
    cases hrow : t.tag [⟨word, 0⟩] with
    | nil => rw [hrow] at htoken; cases htoken
    | cons x rest =>
      have hx : x ∈ t.tag [⟨word, 0⟩] := hrow ▸ List.mem_cons_self
      have htext : x.text = word := by
        rw [hrow, List.map_cons, List.cons_eq_cons] at htoken
        rw [TaggedToken.text, htoken.1]
      have hunknown' : t.tagSet.contains (t.lexicon.lookup x.text).1 = false := by
        rw [htext, hlookup]
        exact hunknown
      have hfallback := tag_of_unknown hx (by rw [htext, hlookup]) hunknown'
      have hname := htags _ x hx hfallback.2
      rw [htext, hlookup] at hname
      rw [TagSet.contains, hname] at hunknown
      cases hunknown

/-- The tagger with one word and one rule is made, and a token of the word from the lexicon has the
tag that is stored for it. -/
theorem stored_tags_iff_verbTagger :
    verbTagger.Made ∧ verbTagger.tag [⟨"b", 0⟩] = [⟨⟨"b", 0⟩, "n", .lexicon⟩] ∧
      verbTagger.tagSet.name? (verbTagger.lexicon.lookup "b").1 = some "n" := by
  have hmade : verbTagger.Made := .ofRules oneWord_built (ofRules_eq_ok verbTagger.fits)
  have htag : verbTagger.tag [⟨"b", 0⟩] = [⟨⟨"b", 0⟩, "n", .lexicon⟩] := by decide
  obtain ⟨-, hstored, hiff⟩ := stored_tags_iff verbTagger
  have hmem : ⟨⟨"b", 0⟩, "n", .lexicon⟩ ∈ verbTagger.tag [⟨"b", 0⟩] := by
    rw [htag]
    exact List.mem_cons_self
  exact ⟨hmade, htag, hiff.mp (hstored hmade) _ _ hmem rfl⟩

/-- A tagger is told by its lexicon and its rules. -/
theorem eq_ok_of_parts {ε : Type} {r : Except ε Tagger} {t : Tagger}
    (h : (r.map fun t => (t.lexicon, t.rules)) = .ok (t.lexicon, t.rules)) : r = .ok t := by
  obtain ⟨⟨lexicon, rules, fits⟩, rfl, hparts⟩ := map_eq_ok_iff.mp h
  obtain ⟨lexicon', rules', fits'⟩ := t
  cases hparts
  rfl

/-- A tagger with one word, whose number belongs to no tag. -/
def looseTagger : Tagger := ⟨⟨⟨["UNK"]⟩, ⟨[("casa", 1)]⟩, .default⟩, ⟨[]⟩, by decide⟩

/-- The text and the bytes of this tagger are read without a fault, and its word is given the tag of
unknown words as if this were stored for it. -/
theorem read_looseTagger :
    Json.readText JsonForm.read (JsonForm.write looseTagger).render = .ok looseTagger ∧
      WireForm.decode (write looseTagger) = .ok looseTagger ∧
      ¬ looseTagger.Stored ∧
      looseTagger.tag [⟨"casa", 0⟩] = [⟨⟨"casa", 0⟩, "UNK", .lexicon⟩] ∧
      looseTagger.tagSet.name? (looseTagger.lexicon.lookup "casa").1 = none := by
  refine ⟨eq_ok_of_parts (by decide +kernel), eq_ok_of_parts (by decide +kernel), fun h => ?_,
    by decide, by decide⟩
  exact absurd (h "casa" 1 (by decide)) (by decide)

end Tagger

end ShallowTransfer
