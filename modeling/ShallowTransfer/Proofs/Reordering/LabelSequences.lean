import ShallowTransfer.Proofs.Reordering.LeftmostGreedy
import ShallowTransfer.Proofs.Reordering.StoredForm

/-!
Rules made of two label sequences, the labels of a row and the same labels in their new order.
Labels that were read are told apart by what is written of them (`RowLabel.eq_of_render_eq`), so
looking for written labels is looking for the labels themselves. A rule is made exactly if all
labels are read, there are some, and the second sequence is a rearrangement of the first one; and
wherever the rule then rewrites, each element is put where the second sequence has a label for it
(`ofLabels_arranges`).
-/

namespace ShallowTransfer

/-- What a pattern says of one element of a row. -/
inductive RowLabel where
  | kind (k : ChunkKind)
  | tag (m : TagMatcher)
deriving Repr, DecidableEq

namespace RowLabel

/-- Reads a label of a row of chunks or of tokens. -/
def parse (level : RuleLevel) (text : String) : Except ConfigError RowLabel :=
  match level with
  | .chunk => (ChunkKind.parse (Text.trim text)).map .kind
  | .token => (TagMatcher.parse text).map .tag

/-- The written label. -/
def render : RowLabel → String
  | .kind k => k.label
  | .tag m => m.render

/-- The label describes the element of the groups, the group or the slot, at a place of the row. -/
def DescribesAt (groups : List Group) (n : Nat) : RowLabel → Prop
  | .kind k => ∃ g, groups[n]? = some g ∧ g.kind = k
  | .tag m => ∃ s, (slotsIn groups)[n]? = some s ∧ m.accepts s.token.tag = true

variable {level : RuleLevel} {text text' : String} {l l' : RowLabel}

theorem normalizeLabel_eq (level : RuleLevel) (text : String) :
    SyntacticRule.normalizeLabel level text = (parse level text).map render := by
  cases level with
  | chunk =>
    unfold SyntacticRule.normalizeLabel parse
    cases ChunkKind.parse (Text.trim text) <;> rfl
  | token =>
    unfold SyntacticRule.normalizeLabel parse
    cases TagMatcher.parse text <;> rfl

/-- What is written of a label that was read is read as this label. -/
theorem parse_render (h : parse level text = .ok l) : parse level l.render = .ok l := by
  cases level with
  | chunk =>
    obtain ⟨k, -, rfl⟩ := map_eq_ok_iff.mp h
    refine map_eq_ok_iff.mpr ⟨k, ?_, rfl⟩
    rw [render, ChunkKind.trim_label, ChunkKind.parse_label]
  | token =>
    obtain ⟨m, hm, rfl⟩ := map_eq_ok_iff.mp h
    exact map_eq_ok_iff.mpr ⟨m, TagMatcher.parse_render (TagMatcher.normal_of_parse hm), rfl⟩

/-- Labels of one level that were read are equal if the same is written of them. -/
theorem eq_of_render_eq (h : parse level text = .ok l) (h' : parse level text' = .ok l')
    (heq : l.render = l'.render) : l = l' := by
  have hread := parse_render h
  rw [heq, parse_render h', Except.ok.injEq] at hread
  exact hread.symm

end RowLabel

/-! ### Rows of labels -/

/-- What the pattern says of the elements of a row. -/
def Pattern.rowLabels : Pattern → List RowLabel
  | .chunks kinds => kinds.map .kind
  | .tokens matchers => matchers.map .tag

theorem Pattern.labels_eq (p : Pattern) : p.labels = p.rowLabels.map RowLabel.render := by
  cases p with
  | chunks kinds =>
    rw [labels, rowLabels, List.map_map]
    rfl
  | tokens matchers =>
    rw [labels, rowLabels, List.map_map]
    rfl

theorem Pattern.length_rowLabels (p : Pattern) : p.rowLabels.length = p.size := by
  cases p <;> exact List.length_map _

/-- To read a pattern is to read its labels. -/
theorem Pattern.map_rowLabels_parse (level : RuleLevel) (texts : List String) :
    (parse level texts).map rowLabels = texts.mapM (RowLabel.parse level) := by
  cases level with
  | chunk =>
    refine .trans ?_ (map_mapM (fun t => ChunkKind.parse (Text.trim t)) RowLabel.kind texts)
    rw [parse]
    cases texts.mapM fun t => ChunkKind.parse (Text.trim t) <;> rfl
  | token =>
    refine .trans ?_ (map_mapM TagMatcher.parse RowLabel.tag texts)
    rw [parse, parseMatchers]
    cases texts.mapM TagMatcher.parse <;> rfl

/-- An order that puts the labels of a row into a new sequence and keeps equal labels in their
order. -/
structure Arranges (row outs : List RowLabel) (order : List Nat) : Prop where
  perm : order.Perm (List.range row.length)
  labels : List.Forall₂ (fun out i => row[i]? = some out) outs order
  keeps : order.Pairwise fun i j => row[i]? = row[j]? → i < j

theorem Arranges.outs_perm {row outs : List RowLabel} {order : List Nat}
    (h : Arranges row outs order) : outs.Perm row := by
  rw [eq_rearrange_of_forall₂ h.labels]
  exact rearrange_perm h.perm

namespace SyntacticRule

variable {level : RuleLevel} {name : String} {pattern output : List String} {r : SyntacticRule}

/-- A label that was read stands at a place of a row that was read if what is written of it does. -/
theorem getElem?_of_render {row : List RowLabel} {out : RowLabel} {i : Nat} {text : String}
    (hrow : pattern.mapM (RowLabel.parse level) = .ok row)
    (hout : RowLabel.parse level text = .ok out)
    (h : (row.map RowLabel.render)[i]? = some out.render) : row[i]? = some out := by
  rw [List.getElem?_map, Option.map_eq_some_iff] at h
  obtain ⟨l, hl, hsame⟩ := h
  obtain ⟨_, -, hread⟩ := exists_of_mem_forall₂ (mapM_eq_ok_iff.mp hrow) (List.mem_of_getElem? hl)
  rw [hl, RowLabel.eq_of_render_eq hread hout hsame]

/-- Texts are normalized to what is written of the labels that they are read as. -/
theorem forall₂_normalizeLabel_iff {texts labels : List String} :
    List.Forall₂ (fun t l => normalizeLabel level t = .ok l) texts labels ↔
      ∃ outs, texts.mapM (RowLabel.parse level) = .ok outs ∧ outs.map RowLabel.render = labels := by
  rw [← map_eq_ok_iff, map_mapM, mapM_eq_ok_iff]
  simp only [RowLabel.normalizeLabel_eq]

/-- A rule made of two label sequences has the labels of the first one as its pattern and an order
that puts them into the second one. -/
theorem arranges_of_ofLabels (h : ofLabels name level pattern output = .ok r) :
    ∃ row outs, pattern.mapM (RowLabel.parse level) = .ok row ∧
      output.mapM (RowLabel.parse level) = .ok outs ∧ r.pattern.rowLabels = row ∧
        Arranges row outs r.order := by
  obtain ⟨hpattern, ⟨labels, hread, hplaced⟩, -⟩ := ofLabels_eq_ok_iff.mp h
  obtain ⟨outs, houts, rfl⟩ := forall₂_normalizeLabel_iff.mp hread
  have hrow : pattern.mapM (RowLabel.parse level) = .ok r.pattern.rowLabels := by
    rw [← Pattern.map_rowLabels_parse, hpattern]
    rfl
  rw [Pattern.labels_eq] at hplaced
  have hlabels := hplaced.labels_eq
  rw [List.forall₂_map_left_iff] at hlabels
  have hkeeps := hplaced.keeps
  refine ⟨r.pattern.rowLabels, outs, hrow, houts, rfl, ?_, ?_, ?_⟩
  · rw [Pattern.length_rowLabels]
    exact r.order_perm
  · have hreads : List.Forall₂ (fun t out => RowLabel.parse level t = .ok out) output outs :=
      mapM_eq_ok_iff.mp houts
    have hall : ∀ out ∈ outs, ∃ t, RowLabel.parse level t = .ok out := fun out hout => by
      obtain ⟨t, -, ht⟩ := exists_of_mem_forall₂ hreads hout
      exact ⟨t, ht⟩
    have hboth := (List.forall₂_and_left outs r.order).mpr ⟨hall, hlabels⟩
    refine hboth.imp ?_
    rintro out i ⟨⟨t, ht⟩, hget⟩
    exact getElem?_of_render hrow ht hget
  · refine hkeeps.imp fun hlt hsame => hlt ?_
    rw [List.getElem?_map, List.getElem?_map, hsame]

/-- Label sequences that are read, not empty and rearrangements of each other make a rule. -/
theorem exists_ofLabels_of_perm (name : String) (hne : pattern ≠ []) {row outs : List RowLabel}
    (hrow : pattern.mapM (RowLabel.parse level) = .ok row)
    (houts : output.mapM (RowLabel.parse level) = .ok outs) (hperm : outs.Perm row) :
    ∃ r, ofLabels name level pattern output = .ok r := by
  have hlength := (mapM_eq_ok_iff.mp hrow).length_eq
  rw [← Pattern.map_rowLabels_parse, map_eq_ok_iff] at hrow
  obtain ⟨p, hp, rfl⟩ := hrow
  have hsize : p.size ≠ 0 := by
    rw [← p.length_rowLabels, ← hlength]
    exact fun h => hne (List.length_eq_zero_iff.mp h)
  have hlabels : (outs.map RowLabel.render).Perm p.labels := by
    rw [p.labels_eq]
    exact hperm.map _
  obtain ⟨order, hsound, hrule, -⟩ := exists_ofLabels name hp hsize
    (forall₂_normalizeLabel_iff.mpr ⟨outs, houts, rfl⟩) hlabels
  exact ⟨_, hrule⟩

/-! ### What is rewritten -/

/-- Where a pass rewrites, the element that goes to a place is described by the label that the order
puts there. -/
theorem describesAt_apply {groups : List Group} {s i j : Nat} {l : RowLabel}
    (hs : s ∈ r.rewriteStarts groups) (horder : r.order[i]? = some j)
    (hl : r.pattern.rowLabels[j]? = some l) : l.DescribesAt (r.apply groups) (s + i) := by
  have hmatch := (r.leftmostGreedy_rewriteStarts groups).fits s hs
  cases hpattern : r.pattern with
  | chunks kinds =>
    rw [hpattern, Pattern.rowLabels, List.getElem?_map, Option.map_eq_some_iff] at hl
    obtain ⟨kind, hkind, rfl⟩ := hl
    obtain ⟨g, hg, hsame, -⟩ := (r.matchesAt_iff_of_chunks groups hpattern).mp hmatch j kind hkind
    obtain ⟨x, hx, hmoved⟩ := (r.rewritten_apply_of_chunks groups hpattern).moved s hs i j horder
    rw [hg, Option.some.injEq] at hx
    subst hx
    exact ⟨_, hmoved, hsame⟩
  | tokens matchers =>
    rw [hpattern, Pattern.rowLabels, List.getElem?_map, Option.map_eq_some_iff] at hl
    obtain ⟨m, hm, rfl⟩ := hl
    obtain ⟨owner, hall⟩ := (r.matchesAt_iff_of_tokens groups hpattern).mp hmatch
    obtain ⟨p, hp, -, -, htag, -⟩ := hall j m hm
    obtain ⟨x, hx, hmoved⟩ := (r.rewritten_apply_of_tokens groups hpattern).moved s hs i j horder
    rw [← slots_placesFrom 0, List.getElem?_map, hp, Option.map_some, Option.some.injEq] at hx
    subst hx
    exact ⟨_, hmoved, htag⟩

/-- A rule is made of two label sequences exactly if the first one is not empty, all labels are read
at the level, and those of the output are a rearrangement of those of the pattern. (Reading trims a
label and puts a stem in lower case, so neither blanks nor the case of stems count.) Then the
pattern holds the labels of the first sequence, the order is a rearrangement of its places that puts
them into the second one and keeps equal labels in their order, and wherever a pass of the rule
rewrites, with any options and on groups with any claims, the element that goes to place `i` of the
span is described by label `i` of the output. -/
theorem ofLabels_arranges (name : String) (level : RuleLevel) (pattern output : List String) :
    ((∃ r, ofLabels name level pattern output = .ok r) ↔
      pattern ≠ [] ∧ ∃ row outs, pattern.mapM (RowLabel.parse level) = .ok row ∧
        output.mapM (RowLabel.parse level) = .ok outs ∧ outs.Perm row) ∧
    ∀ r, ofLabels name level pattern output = .ok r →
      ∃ row outs, pattern.mapM (RowLabel.parse level) = .ok row ∧
        output.mapM (RowLabel.parse level) = .ok outs ∧ r.pattern.rowLabels = row ∧
        Arranges row outs r.order ∧
        ∀ (within : List ChunkKind) (single : Bool) (groups : List Group),
          let rule := (r.withinKinds within).inSingleChunk single
          ∀ s ∈ rule.rewriteStarts groups, ∀ (i : Nat) (out : RowLabel),
            outs[i]? = some out → out.DescribesAt (rule.apply groups) (s + i) := by
  refine ⟨⟨?_, ?_⟩, fun r h => ?_⟩
  · rintro ⟨r, h⟩
    obtain ⟨row, outs, hrow, houts, hlabels, harranges⟩ := arranges_of_ofLabels h
    refine ⟨?_, row, outs, hrow, houts, harranges.outs_perm⟩
    rintro rfl
    have hlength := (mapM_eq_ok_iff.mp hrow).length_eq
    rw [← hlabels, Pattern.length_rowLabels] at hlength
    exact r.size_ne_zero hlength.symm
  · rintro ⟨hne, row, outs, hrow, houts, hperm⟩
    exact exists_ofLabels_of_perm name hne hrow houts hperm
  · obtain ⟨row, outs, hrow, houts, hlabels, harranges⟩ := arranges_of_ofLabels h
    refine ⟨row, outs, hrow, houts, hlabels, harranges, fun within single groups => ?_⟩
    intro rule s hs i out hout
    obtain ⟨hlength, hget⟩ := List.forall₂_iff_get.mp harranges.labels
    obtain ⟨hi, rfl⟩ := List.getElem?_eq_some_iff.mp hout
    have hi' : i < r.order.length := by omega
    refine describesAt_apply hs (List.getElem?_eq_getElem hi') ?_
    rw [← hlabels] at hget
    exact hget i hi hi'

/-- A rule about two nouns and an adjective between them, whose labels are written in several ways,
puts the adjective last. -/
theorem ofLabels_arranges_adjectiveLast :
    ∃ r, ofLabels "adjective last" .token ["n", " A ", "N"] ["N ", "n", "a"] = .ok r ∧
      r.order = [0, 2, 1] ∧ ∀ groups, ∀ s ∈ r.rewriteStarts groups,
        (RowLabel.tag (.stem "a")).DescribesAt (r.apply groups) (s + 2) := by
  have horder : (ofLabels "adjective last" .token ["n", " A ", "N"] ["N ", "n", "a"]).map
      SyntacticRule.order = .ok [0, 2, 1] := by
    decide
  obtain ⟨r, hr, horder⟩ := map_eq_ok_iff.mp horder
  obtain ⟨row, outs, -, houts, -, -, hrewrites⟩ := (ofLabels_arranges _ _ _ _).2 r hr
  have hread : ["N ", "n", "a"].mapM (RowLabel.parse .token) =
      .ok [.tag (.stem "n"), .tag (.stem "n"), .tag (.stem "a")] := by
    decide
  rw [hread, Except.ok.injEq] at houts
  subst houts
  exact ⟨r, hr, horder, fun groups s hs => hrewrites r.within r.singleChunk groups s hs 2 _ rfl⟩

end SyntacticRule

end ShallowTransfer
