import ShallowTransfer.Proofs.Reordering.LabelOrder
import ShallowTransfer.Proofs.Reordering.Permutation
import ShallowTransfer.Proofs.Tag.Labels

/-!
The stored form of a rule. It writes the order as a sequence of labels, so what comes back is the
order that these describe: always a rule with the same pattern, and with the same order exactly when
this keeps equal labels from left to right (`Reloaded.order_eq_iff`). A rule with another order does
something else on a tree that the rule takes up as a whole (`Reloaded.transfer_eq_iff`).
-/

namespace ShallowTransfer

namespace Pattern

/-- The labels of the pattern have been read from texts. -/
def Parsed : Pattern → Prop
  | .chunks _ => True
  | .tokens matchers => ∀ m ∈ matchers, ∃ s, TagMatcher.parse s = .ok m

theorem length_labels (p : Pattern) : p.labels.length = p.size := by
  cases p <;> exact List.length_map _

theorem parsed_of_parse {level : RuleLevel} {texts : List String} {p : Pattern}
    (h : parse level texts = .ok p) : p.Parsed := by
  cases level with
  | chunk =>
    obtain ⟨kinds, -, rfl⟩ := map_eq_ok_iff.mp h
    trivial
  | token =>
    obtain ⟨matchers, hread, rfl⟩ := map_eq_ok_iff.mp h
    intro m hm
    obtain ⟨s, -, hs⟩ := exists_of_mem_forall₂ (mapM_eq_ok_iff.mp hread) hm
    exact ⟨s, hs⟩

/-- The written elements of a pattern are read as this pattern. -/
theorem parse_labels {p : Pattern} (h : p.Parsed) : parse p.level p.labels = .ok p := by
  cases p with
  | chunks kinds =>
    refine map_eq_ok_iff.mpr ⟨kinds, mapM_eq_ok_iff.mpr ?_, rfl⟩
    rw [labels, List.forall₂_map_left_iff, List.forall₂_same]
    intro k _
    rw [ChunkKind.trim_label, ChunkKind.parse_label]
  | tokens matchers =>
    refine map_eq_ok_iff.mpr ⟨matchers, mapM_eq_ok_iff.mpr ?_, rfl⟩
    rw [labels, List.forall₂_map_left_iff, List.forall₂_same]
    intro m hm
    obtain ⟨s, hs⟩ := h m hm
    exact TagMatcher.parse_render (TagMatcher.normal_of_parse hs)

theorem normalizeLabel_of_mem {p : Pattern} {label : String} (h : p.Parsed)
    (hl : label ∈ p.labels) : SyntacticRule.normalizeLabel p.level label = .ok label := by
  cases p with
  | chunks kinds =>
    obtain ⟨k, -, rfl⟩ := List.mem_map.mp hl
    refine map_eq_ok_iff.mpr ⟨k, ?_, rfl⟩
    rw [ChunkKind.trim_label, ChunkKind.parse_label]
  | tokens matchers =>
    obtain ⟨m, hm, rfl⟩ := List.mem_map.mp hl
    obtain ⟨s, hs⟩ := h m hm
    exact map_eq_ok_iff.mpr ⟨m, TagMatcher.parse_render (TagMatcher.normal_of_parse hs), rfl⟩

end Pattern

/-! ### What comes back -/

namespace SyntacticRule

/-- The rules that programs can make: from an order for a pattern that has been read, from two label
sequences, and with any options. -/
inductive Built : SyntacticRule → Prop
  | ofOrder {name : String} {pattern : Pattern} {order : List Nat} {r : SyntacticRule} :
      pattern.Parsed → ofOrder name pattern order = .ok r → Built r
  | ofLabels {name : String} {level : RuleLevel} {pattern output : List String}
      {r : SyntacticRule} : ofLabels name level pattern output = .ok r → Built r
  | withinKinds {r : SyntacticRule} (kinds : List ChunkKind) :
      Built r → Built (r.withinKinds kinds)
  | inSingleChunk {r : SyntacticRule} (single : Bool) : Built r → Built (r.inSingleChunk single)

theorem Built.parsed {r : SyntacticRule} (h : r.Built) : r.pattern.Parsed := by
  induction h with
  | ofOrder hparsed h =>
    obtain ⟨-, rfl, -⟩ := ofOrder_eq_ok_iff.mp h
    exact hparsed
  | ofLabels h => exact Pattern.parsed_of_parse (ofLabels_eq_ok_iff.mp h).1
  | withinKinds _ _ ih => exact ih
  | inSingleChunk _ _ ih => exact ih

/-- A rule can be made by programs if the labels of its pattern have been read. -/
theorem Built.of_parsed {r : SyntacticRule} (h : r.pattern.Parsed) : r.Built := by
  have hrule : Built ⟨r.name, r.pattern, r.order, [], false, r.sound⟩ :=
    .ofOrder h (ofOrder_eq_ok_iff.mpr ⟨rfl, rfl, rfl, rfl, rfl⟩)
  have hoptions := Built.inSingleChunk r.singleChunk (.withinKinds r.within hrule)
  exact hoptions

/-- Elements with equal labels keep their relative order. -/
def KeepsEqualLabels (r : SyntacticRule) : Prop :=
  KeepsEqual r.pattern.labels r.order

instance (r : SyntacticRule) : Decidable r.KeepsEqualLabels :=
  inferInstanceAs (Decidable (KeepsEqual r.pattern.labels r.order))

/-- A rule made of two label sequences keeps equal labels. -/
theorem keepsEqualLabels_of_ofLabels {name : String} {level : RuleLevel}
    {pattern output : List String} {r : SyntacticRule}
    (h : ofLabels name level pattern output = .ok r) : r.KeepsEqualLabels := by
  obtain ⟨-, ⟨outs, -, hplaced⟩, -⟩ := ofLabels_eq_ok_iff.mp h
  exact hplaced.keeps

theorem outputLabels_perm (r : SyntacticRule) : r.outputLabels.Perm r.pattern.labels :=
  rearrange_perm (r.pattern.length_labels ▸ r.order_perm)

theorem forall₂_outputLabels (r : SyntacticRule) :
    List.Forall₂ (fun l i => r.pattern.labels[i]? = some l) r.outputLabels r.order :=
  forall₂_rearrange fun _ hi => r.pattern.length_labels ▸ lt_size_of_mem_order hi

/-- What loading makes of a stored rule: the order that its labels describe, and at the token level
the same options. -/
structure Reloaded (r r' : SyntacticRule) : Prop where
  name_eq : r'.name = r.name
  pattern_eq : r'.pattern = r.pattern
  placed : Placed r.pattern.labels [] r.outputLabels r'.order
  options_eq : r.level = .token → r'.within = r.within ∧ r'.singleChunk = r.singleChunk

/-- A rule is made of two label sequences if all labels are read and those of the output are those
of the pattern in some order. -/
theorem exists_ofLabels {level : RuleLevel} {texts output outs : List String} {pattern : Pattern}
    (name : String) (hpattern : Pattern.parse level texts = .ok pattern) (hsize : pattern.size ≠ 0)
    (houts : List.Forall₂ (fun t l => normalizeLabel level t = .ok l) output outs)
    (hperm : outs.Perm pattern.labels) :
    ∃ order h, ofLabels name level texts output = .ok ⟨name, pattern, order, [], false, h⟩ ∧
      Placed pattern.labels [] outs order := by
  have hleft : outs.Perm (leftOver pattern.labels []) := by
    rwa [leftOver_nil]
  obtain ⟨order, hplaced⟩ := exists_placed hleft
  have horder := hplaced.perm hperm
  rw [pattern.length_labels] at horder
  have hsound : checkOrder name pattern order = .ok () :=
    checkOrder_eq_ok_iff.mpr ⟨hsize, horder⟩
  exact ⟨order, hsound,
    ofLabels_eq_ok_iff.mpr ⟨hpattern, ⟨outs, houts, hplaced⟩, rfl, rfl, rfl⟩, hplaced⟩

/-- The stored form of a rule whose labels have been read can be loaded. -/
theorem exists_ofForm_toForm {r : SyntacticRule} (h : r.pattern.Parsed) :
    ∃ r', ofForm r.toForm = .ok r' ∧ Reloaded r r' := by
  have hread : List.Forall₂ (fun t l => normalizeLabel r.level t = .ok l) r.outputLabels
      r.outputLabels := by
    rw [List.forall₂_same]
    intro label hlabel
    exact Pattern.normalizeLabel_of_mem h (r.outputLabels_perm.mem_iff.mp hlabel)
  obtain ⟨order, hsound, hlabels, hplaced⟩ := exists_ofLabels r.name (Pattern.parse_labels h)
    r.size_ne_zero hread r.outputLabels_perm
  have hoption : misplacedOption? r.toForm = none := by
    cases hlevel : r.level <;> simp [misplacedOption?, toForm, hlevel]
  refine ⟨⟨r.name, r.pattern, order, r.toForm.within, r.toForm.singleChunk, hsound⟩, ?_,
    rfl, rfl, hplaced, fun hlevel => ?_⟩
  · unfold ofForm
    rw [hoption]
    exact bind_eq_ok_iff.mpr ⟨_, hlabels, rfl⟩
  · simp [toForm, hlevel]

/-- Loading gives back the order of a rule if and only if this keeps equal labels. -/
theorem Reloaded.order_eq_iff {r r' : SyntacticRule} (h : Reloaded r r') :
    r'.order = r.order ↔ r.KeepsEqualLabels := by
  constructor
  · intro heq
    have hkeeps := h.placed.keeps
    rwa [heq] at hkeeps
  · intro hkeeps
    refine h.placed.functional (placed_of_keeps r.forall₂_outputLabels ?_ (fun j hj => ?_) hkeeps)
    · exact r.order_perm.nodup_iff.mpr List.nodup_range
    · rw [r.pattern.length_labels] at hj
      exact r.order_perm.mem_iff.mpr (List.mem_range.mpr hj)

/-- What comes back is stored in the same form. -/
theorem Reloaded.toForm_eq {r r' : SyntacticRule} (h : Reloaded r r') : r'.toForm = r.toForm := by
  have houtput : r'.outputLabels = r.outputLabels := by
    rw [outputLabels, h.pattern_eq]
    exact (eq_rearrange_of_forall₂ h.placed.labels_eq).symm
  have hlevel : r'.level = r.level := by rw [level, level, h.pattern_eq]
  unfold toForm
  rw [h.name_eq, hlevel, h.pattern_eq, houtput]
  cases hr : r.level with
  | chunk => rfl
  | token => rw [(h.options_eq hr).1, (h.options_eq hr).2]

/-- Rules that are equal up to options that are ignored, those of a chunk rule. -/
def Agrees (r' r : SyntacticRule) : Prop :=
  match r.level with
  | .chunk => r'.name = r.name ∧ r'.pattern = r.pattern ∧ r'.order = r.order
  | .token => r' = r

/-- Loading gives back a rule, up to options that are ignored, if and only if this keeps equal
labels. -/
theorem Reloaded.agrees_iff {r r' : SyntacticRule} (h : Reloaded r r') :
    Agrees r' r ↔ r.KeepsEqualLabels := by
  rw [← h.order_eq_iff]
  unfold Agrees
  cases hlevel : r.level with
  | chunk => exact ⟨fun hsame => hsame.2.2, fun horder => ⟨h.name_eq, h.pattern_eq, horder⟩⟩
  | token =>
    refine ⟨fun hsame => by rw [hsame], fun horder => ?_⟩
    have hname := h.name_eq
    have hpattern := h.pattern_eq
    obtain ⟨hwithin, hsingle⟩ := h.options_eq hlevel
    obtain ⟨name, pattern, order, within, single, sound⟩ := r
    obtain ⟨name', pattern', order', within', single', sound'⟩ := r'
    cases hname
    cases hpattern
    cases horder
    cases hwithin
    cases hsingle
    rfl

/-- The stored form of every rule that programs can make is loaded, what comes back has this same
stored form, and it is the rule again, up to options that are ignored, if and only if the rule keeps
equal labels in their order. -/
theorem Built.stored_form_canonical {r : SyntacticRule} (h : r.Built) :
    ∃ r', ofForm r.toForm = .ok r' ∧ r'.toForm = r.toForm ∧
      (Agrees r' r ↔ r.KeepsEqualLabels) := by
  obtain ⟨r', hload, hreload⟩ := exists_ofForm_toForm h.parsed
  exact ⟨r', hload, hreload.toForm_eq, hreload.agrees_iff⟩

/-- A rule about two noun phrases on the sides of a verb phrase, with options that chunk rules
ignore. -/
def aroundVerb (order : List Nat)
    (h : checkOrder "around" (.chunks [.nounPhrase, .verbPhrase, .nounPhrase]) order = .ok ()) :
    SyntacticRule :=
  ⟨"around", .chunks [.nounPhrase, .verbPhrase, .nounPhrase], order, [.nounPhrase], true, h⟩

/-- Putting the verb first keeps the noun phrases in their order and comes back, up to the options;
reversing all three exchanges the noun phrases and does not. -/
theorem stored_form_canonical_aroundVerb :
    (aroundVerb [1, 0, 2] rfl).Built ∧ (aroundVerb [2, 1, 0] rfl).Built ∧
      (∃ r', ofForm (aroundVerb [1, 0, 2] rfl).toForm = .ok r' ∧
        Agrees r' (aroundVerb [1, 0, 2] rfl)) ∧
      ∃ r', ofForm (aroundVerb [2, 1, 0] rfl).toForm = .ok r' ∧
        r'.toForm = (aroundVerb [2, 1, 0] rfl).toForm ∧ ¬ Agrees r' (aroundVerb [2, 1, 0] rfl) := by
  have hfirst : (aroundVerb [1, 0, 2] rfl).Built := .of_parsed trivial
  have hback : (aroundVerb [2, 1, 0] rfl).Built := .of_parsed trivial
  obtain ⟨r, hload, -, hkeeps⟩ := Built.stored_form_canonical hfirst
  obtain ⟨r', hload', hform', hkeeps'⟩ := Built.stored_form_canonical hback
  refine ⟨hfirst, hback, ⟨r, hload, hkeeps.mpr (by decide)⟩, r', hload', hform', fun h => ?_⟩
  exact absurd (hkeeps'.mp h) (by decide)

/-! ### What the rules do -/

/-- A pass of a rule depends on its pattern and order, and at the token level on the options. -/
theorem apply_congr {r r' : SyntacticRule} (hpattern : r'.pattern = r.pattern)
    (horder : r'.order = r.order)
    (hoptions : r.level = .token → r'.within = r.within ∧ r'.singleChunk = r.singleChunk)
    (groups : List Group) : r'.apply groups = r.apply groups := by
  obtain ⟨name, pattern, order, within, single, sound⟩ := r
  obtain ⟨name', pattern', order', within', single', sound'⟩ := r'
  cases hpattern
  cases horder
  cases pattern with
  | chunks kinds => rfl
  | tokens matchers =>
    obtain ⟨hwithin, hsingle⟩ := hoptions rfl
    cases hwithin
    cases hsingle
    rfl

/-- A chunk of a single token. -/
def soleChunk (e : ChunkKind × TaggedToken) : Chunk :=
  ⟨e.1, [e.2]⟩

theorem tokensIn_claim_soleChunk (row : List (ChunkKind × TaggedToken)) :
    tokensIn ((row.map fun e => Group.ofChunk (soleChunk e)).map Group.claim) =
      row.map Prod.snd := by
  simp [tokensIn, slotsIn, List.flatMap_map, Group.claim, Group.ofChunk, soleChunk,
    ← List.map_eq_flatMap]

/-- A chunk rule takes up a row of chunks with its labels as a whole. -/
theorem positions_apply_of_chunks {r : SyntacticRule} (row : List (ChunkKind × TaggedToken))
    (hpattern : r.pattern = .chunks (row.map Prod.fst))
    (hpos : (row.map fun e => e.2.position) = List.range r.pattern.size) :
    (tokensIn (r.apply (SyntacticTransfer.start ⟨row.map soleChunk⟩))).map TaggedToken.position =
      r.order := by
  have hstart : SyntacticTransfer.start ⟨row.map soleChunk⟩ =
      row.map fun e => Group.ofChunk (soleChunk e) := by
    rw [SyntacticTransfer.start, List.map_map]
    rfl
  have hfits : fitsGroups (row.map Prod.fst)
      (row.map fun e => Group.ofChunk (soleChunk e)) = true := by
    rw [fitsGroups, List.zip_map', List.all_map]
    simp [Group.ofChunk, soleChunk]
  have hpieces : groupPieces (row.map Prod.fst) (row.map fun e => Group.ofChunk (soleChunk e)) =
      [.hit (row.map fun e => Group.ofChunk (soleChunk e))] := by
    refine cutRow_of_fits ?_ hfits
    have hsize : r.pattern.size = row.length := by rw [hpattern, Pattern.size, List.length_map]
    have := r.size_ne_zero
    rw [List.length_map, List.length_map]
    omega
  rw [r.apply_of_chunks _ hpattern, hstart, hpieces, List.flatMap_singleton, moveGroups,
    ← map_rearrange, tokensIn_claim_soleChunk, List.map_map]
  exact r.map_rearrange_order hpos

/-- A token rule takes up a chunk with tokens that it accepts as a whole. -/
theorem positions_apply_of_tokens {r : SyntacticRule} {matchers : List TagMatcher}
    {tokens : List TaggedToken} {kind : ChunkKind} (hpattern : r.pattern = .tokens matchers)
    (hpos : tokens.map TaggedToken.position = List.range r.pattern.size)
    (htags : List.Forall₂ (fun t m => TagMatcher.accepts m t.tag = true) tokens matchers)
    (hkind : r.allows kind = true) :
    (tokensIn (r.apply (SyntacticTransfer.start ⟨[⟨kind, tokens⟩]⟩))).map
      TaggedToken.position = r.order := by
  have hsize := length_of_tokens hpattern
  have hplaces : placesFrom 0 (SyntacticTransfer.start ⟨[⟨kind, tokens⟩]⟩) =
      tokens.map fun t => ⟨⟨t, false⟩, 0, kind⟩ := by
    simp [SyntacticTransfer.start, Group.ofChunk, placesFrom, Function.comp_def]
  have hfits : r.fitsPlaces matchers (tokens.map fun t => ⟨⟨t, false⟩, 0, kind⟩) = true := by
    unfold fitsPlaces
    rw [Bool.and_eq_true, Bool.or_eq_true]
    refine ⟨?_, Or.inr (spanOwners_of_same 0 fun p hp => ?_)⟩
    · rw [List.zip_map_left, List.all_map, List.all_eq_true]
      rintro ⟨t, m⟩ hmem
      simp [(List.forall₂_iff_zip.mp htags).2 hmem, hkind]
    · obtain ⟨t, -, rfl⟩ := List.mem_map.mp hp
      rfl
  have hpieces : r.placePieces matchers (SyntacticTransfer.start ⟨[⟨kind, tokens⟩]⟩) =
      [.hit (tokens.map fun t => ⟨⟨t, false⟩, 0, kind⟩)] := by
    rw [placePieces, hplaces]
    refine cutRow_of_fits ?_ hfits
    have := r.size_ne_zero
    rw [List.length_map, htags.length_eq]
    omega
  rw [tokensIn, r.slotsIn_apply_of_tokens _ hpattern, hpieces, List.flatMap_singleton, moveSlots,
    ← map_rearrange, List.map_map, List.map_map, List.map_map]
  exact r.map_rearrange_order hpos

/-- A tree with numbered tokens that the rule takes up as a whole: a chunk for each label, or one
chunk with a token for each tag. -/
def tellingTree (r : SyntacticRule) : ShallowTree :=
  match r.pattern with
  | .chunks kinds =>
    ⟨(kinds.zipIdx.map fun e => (e.1, ⟨⟨"", e.2⟩, "", .lexicon⟩)).map soleChunk⟩
  | .tokens matchers =>
    ⟨[⟨r.within.headD .nounPhrase,
      matchers.zipIdx.map fun e => ⟨⟨"", e.2⟩, e.1.sample, .lexicon⟩⟩]⟩

theorem map_snd_zipIdx {α : Type} (xs : List α) :
    (xs.zipIdx.map fun e => e.2) = List.range xs.length := by
  rw [List.range_eq_range', ← List.zipIdx_map_snd 0 xs]

theorem allows_headD (r : SyntacticRule) : r.allows (r.within.headD .nounPhrase) = true := by
  unfold allows
  cases r.within with
  | nil => rfl
  | cons k rest => simp

/-- The tree that a rule takes up as a whole comes out in the order of the rule. -/
theorem positions_apply_tellingTree {r : SyntacticRule} (h : r.pattern.Parsed) :
    (tokensIn (r.apply (SyntacticTransfer.start r.tellingTree))).map TaggedToken.position =
      r.order := by
  cases hpattern : r.pattern with
  | chunks kinds =>
    simp only [tellingTree, hpattern]
    refine positions_apply_of_chunks _ ?_ ?_
    · rw [hpattern, List.map_map]
      exact congrArg Pattern.chunks (List.zipIdx_map_fst 0 kinds).symm
    · rw [hpattern, List.map_map]
      exact map_snd_zipIdx kinds
  | tokens matchers =>
    rw [hpattern] at h
    simp only [tellingTree, hpattern]
    refine positions_apply_of_tokens hpattern ?_ ?_ r.allows_headD
    · rw [List.map_map, hpattern]
      exact map_snd_zipIdx matchers
    · conv_rhs => rw [← List.zipIdx_map_fst 0 matchers]
      rw [List.forall₂_map_left_iff, List.forall₂_map_right_iff, List.forall₂_same]
      intro e he
      obtain ⟨s, hs⟩ := h e.1 (List.fst_mem_of_mem_zipIdx he)
      exact TagMatcher.accepts_sample (TagMatcher.normal_of_parse hs)

theorem Reloaded.tellingTree_eq {r r' : SyntacticRule} (h : Reloaded r r') :
    r'.tellingTree = r.tellingTree := by
  unfold tellingTree
  rw [h.pattern_eq]
  cases hpattern : r.pattern with
  | chunks kinds => rfl
  | tokens matchers =>
    have hlevel : r.level = .token := by rw [level, hpattern, Pattern.level]
    rw [(h.options_eq hlevel).1]

/-- A loaded rule that does the same with one tree, the telling one, has the same order. -/
theorem Reloaded.order_eq_of_transfer_eq {r r' : SyntacticRule} (h : Reloaded r r')
    (hparsed : r.pattern.Parsed)
    (hsame : SyntacticTransfer.transfer ⟨[r']⟩ r.tellingTree =
      SyntacticTransfer.transfer ⟨[r]⟩ r.tellingTree) : r'.order = r.order := by
  rw [SyntacticTransfer.transfer_eq_ok, SyntacticTransfer.transfer_eq_ok, Except.ok.injEq] at hsame
  have htokens := congrArg ShallowTree.tokens hsame
  rw [SyntacticTransfer.tokens_finish, SyntacticTransfer.tokens_finish] at htokens
  have hr := positions_apply_tellingTree hparsed
  have hr' : (tokensIn (r'.apply (SyntacticTransfer.start r'.tellingTree))).map
      TaggedToken.position = r'.order :=
    positions_apply_tellingTree (h.pattern_eq ▸ hparsed)
  rw [h.tellingTree_eq] at hr'
  rw [← hr, ← hr']
  exact congrArg (List.map TaggedToken.position) htokens

/-- A loaded rule does what the stored one does if and only if it has the same order. -/
theorem Reloaded.transfer_eq_iff {r r' : SyntacticRule} (h : Reloaded r r')
    (hparsed : r.pattern.Parsed) :
    (∀ tree, SyntacticTransfer.transfer ⟨[r']⟩ tree = SyntacticTransfer.transfer ⟨[r]⟩ tree) ↔
      r'.order = r.order := by
  refine ⟨fun hsame => h.order_eq_of_transfer_eq hparsed (hsame _), fun horder tree => ?_⟩
  rw [SyntacticTransfer.transfer_eq_ok, SyntacticTransfer.transfer_eq_ok]
  simp only [SyntacticTransfer.run, List.foldl_cons, List.foldl_nil,
    apply_congr h.pattern_eq horder h.options_eq]

end SyntacticRule

end ShallowTransfer
