import Mathlib.Data.List.Nodup
import ShallowTransfer.Tag.TagSet

/-!
The numbers of tags. However a tag set is built, no tag stands in it twice and all its numbers fit
sixteen bits, also when further tags have taken over numbers of others. So tags and numbers
determine each other, and a tag is told by the name that its number stands for.
-/

namespace ShallowTransfer

/-! ### The order of texts -/

/-- Of two different lists of numbers one comes before the other. -/
theorem lex_total : ∀ ls ms : List Nat, ls ≠ ms → List.lex ls ms Nat.blt = false →
    List.lex ms ls Nat.blt = true
  | [], [], hne, _ => absurd rfl hne
  | [], _ :: _, _, h => by cases h
  | _ :: _, [], _, _ => rfl
  | l :: ls, m :: ms, hne, h => by
    rw [List.lex, Bool.or_eq_false_iff, ← Bool.not_eq_true, Nat.blt_eq] at h
    rw [List.lex, Bool.or_eq_true, Bool.and_eq_true, Nat.blt_eq, beq_iff_eq]
    rcases Nat.lt_trichotomy l m with hlt | rfl | hgt
    · exact absurd hlt h.1
    · refine .inr ⟨rfl, lex_total ls ms (fun he => hne (by rw [he])) ?_⟩
      simpa using h.2
    · exact .inl hgt

/-- Two lists of numbers do not come before each other. -/
theorem lex_asymm {ls ms : List Nat} (h : List.lex ls ms Nat.blt = true) :
    List.lex ms ls Nat.blt = false := by
  by_contra hms
  have hself := lex_trans ls ms ls h (by simpa using hms)
  rw [not_lex_self] at hself
  cases hself

/-- A text is told by the code points of its characters. -/
theorem codePoints_injective {s t : String}
    (h : s.toList.map Char.toNat = t.toList.map Char.toNat) : s = t := by
  have hinj : Function.Injective Char.toNat := fun _ _ => Char.toNat_inj.mp
  exact String.toList_inj.mp (List.map_injective_iff.mpr hinj h)

/-- Of two different texts one comes before the other. -/
theorem textBefore_total {s t : String} (hne : s ≠ t) (h : textBefore s t = false) :
    textBefore t s = true :=
  lex_total _ _ (fun he => hne (codePoints_injective he)) h

/-- Two texts do not come before each other. -/
theorem textBefore_asymm {s t : String} (h : textBefore s t = true) : textBefore t s = false :=
  lex_asymm h

/-- The text that is put in its place is the only new one. -/
theorem mem_insertText {s u : String} :
    ∀ {texts : List String}, u ∈ insertText s texts ↔ u = s ∨ u ∈ texts
  | [] => by simp [insertText]
  | t :: ts => by
    rw [insertText]
    split
    · next h => subst h; simp
    · split
      · simp
      · simp only [List.mem_cons, @mem_insertText s u ts]
        tauto

/-- An ascending list with one more text in its place ascends. -/
theorem pairwise_insertText (s : String) :
    ∀ {texts : List String}, (texts.Pairwise fun t u => textBefore t u = true) →
      (insertText s texts).Pairwise fun t u => textBefore t u = true
  | [], _ => List.pairwise_singleton _ _
  | t :: ts, h => by
    obtain ⟨ht, hts⟩ := List.pairwise_cons.mp h
    rw [insertText]
    split
    · exact h
    · next hne =>
      split
      · next hb =>
        refine .cons (fun u hu => ?_) h
        rcases List.mem_cons.mp hu with rfl | hu
        · exact hb
        · exact textBefore_trans hb (ht u hu)
      · next hb =>
        refine .cons (fun u hu => ?_) (pairwise_insertText s hts)
        rcases mem_insertText.mp hu with rfl | hu
        · exact textBefore_total hne (by simpa using hb)
        · exact ht u hu

/-- The texts of the ascending list are those of the list. -/
theorem mem_ascendingTexts {u : String} {texts : List String} :
    u ∈ ascendingTexts texts ↔ u ∈ texts := by
  induction texts with
  | nil => rfl
  | cons t ts ih =>
    rw [ascendingTexts, List.foldr_cons, mem_insertText, List.mem_cons]
    exact or_congr_right ih

/-- The ascending list ascends. -/
theorem pairwise_ascendingTexts (texts : List String) :
    (ascendingTexts texts).Pairwise fun t u => textBefore t u = true := by
  induction texts with
  | nil => exact .nil
  | cons t ts ih => exact pairwise_insertText t ih

/-- The ascending list holds every text once. -/
theorem nodup_ascendingTexts (texts : List String) : (ascendingTexts texts).Nodup := by
  refine (pairwise_ascendingTexts texts).imp fun {s t} hst he => ?_
  rw [he, textBefore_irrefl] at hst
  cases hst

/-- The ascending list only depends on which texts there are. -/
theorem ascendingTexts_congr {ss ts : List String} (h : ∀ u, u ∈ ss ↔ u ∈ ts) :
    ascendingTexts ss = ascendingTexts ts := by
  refine List.Perm.eq_of_pairwise (fun s t _ _ hst hts => ?_) (pairwise_ascendingTexts ss)
    (pairwise_ascendingTexts ts) ?_
  · rw [textBefore_asymm hst] at hts
    cases hts
  · rw [List.perm_ext_iff_of_nodup (nodup_ascendingTexts ss) (nodup_ascendingTexts ts)]
    intro u
    rw [mem_ascendingTexts, mem_ascendingTexts, h]

/-- Where nothing repeats, all elements are different. -/
theorem nodup_of_firstRepeated_eq_none {α : Type} [DecidableEq α] :
    ∀ {seen xs : List α}, firstRepeated seen xs = none → xs.Nodup ∧ ∀ x ∈ xs, x ∉ seen
  | _, [], _ => ⟨.nil, by simp⟩
  | seen, x :: xs, h => by
    rw [firstRepeated] at h
    split at h
    · cases h
    · next hx =>
      obtain ⟨hn, hs⟩ := nodup_of_firstRepeated_eq_none h
      have hxs : x ∉ xs := fun hm => hs x hm List.mem_cons_self
      refine ⟨List.nodup_cons.mpr ⟨hxs, hn⟩, fun y hy => ?_⟩
      rcases List.mem_cons.mp hy with rfl | hy
      · simpa using hx
      · exact fun hm => hs y hy (List.mem_cons_of_mem _ hm)

namespace TagSet

/-! ### How tag sets come about -/

/-- The tag sets there are: made of tags with a fallback tag, or read with their numbering. -/
inductive Built : TagSet → Prop
  | ofBuild {tags : List Tag} {fallback : Tag} {s : TagSet} :
      build tags fallback = .ok s → Built s
  | ofTags {tags : List Tag} {fallback : Tag} {s : TagSet} :
      ofTags tags fallback = .ok s → Built s
  | ofNames {names : List Tag} {s : TagSet} : ofNames names = .ok s → Built s

/-- A tag set whose tags and numbers determine each other. The first tag is the fallback. -/
structure Numbered (s : TagSet) : Prop where
  nonempty : s.names ≠ []
  nodup : s.names.Nodup
  size_le : s.names.length ≤ tagIdCount

/-- The numbered tags stay different when a new one takes over a number. -/
theorem nodup_assign {names : List Tag} {entry : Tag × Nat} (hn : names.Nodup)
    (he : entry.1 ∉ names) : (assign names entry).Nodup :=
  hn.set he

/-- The tags after one more are those before it and the new one. -/
theorem mem_assign {names : List Tag} {entry : Tag × Nat} {t : Tag}
    (h : t ∈ assign names entry) : t ∈ names ∨ t = entry.1 :=
  List.mem_or_eq_of_mem_set h

/-- Numbering keeps the count of numbers. -/
theorem length_assign (names : List Tag) (entry : Tag × Nat) :
    (assign names entry).length = names.length :=
  List.length_set

/-- Further tags that are all different, and different from the numbered ones, take over numbers
and leave all tags different. -/
theorem nodup_foldl_assign :
    ∀ (entries : List (Tag × Nat)) (names : List Tag), names.Nodup → (entries.map (·.1)).Nodup →
      (∀ e ∈ entries, e.1 ∉ names) → (entries.foldl assign names).Nodup
  | [], _, hn, _, _ => hn
  | e :: rest, names, hn, hd, hnew => by
    rw [List.map_cons, List.nodup_cons] at hd
    have hstep := nodup_assign hn (hnew e List.mem_cons_self)
    refine nodup_foldl_assign rest _ hstep hd.2 fun e' he' hm => ?_
    rcases mem_assign hm with hm | heq
    · exact hnew e' (List.mem_cons_of_mem _ he') hm
    · exact hd.1 (heq ▸ List.mem_map_of_mem he')

/-- Numbering further tags keeps the count of numbers. -/
theorem length_foldl_assign (entries : List (Tag × Nat)) (names : List Tag) :
    (entries.foldl assign names).length = names.length := by
  induction entries generalizing names with
  | nil => rfl
  | cons e rest ih => rw [List.foldl_cons, ih, length_assign]

/-- Different tags are numbered one to one. -/
theorem numbered_number {names : List Tag} (hne : names ≠ []) (hn : names.Nodup) :
    (number names).Numbered := by
  have hsplit : (names.take tagIdCount ++ names.drop tagIdCount).Nodup := by
    rwa [List.take_append_drop]
  obtain ⟨htake, hdrop, hdisj⟩ := List.nodup_append.mp hsplit
  have hlen : (number names).names.length = (names.take tagIdCount).length :=
    length_foldl_assign _ _
  refine ⟨fun h => ?_, nodup_foldl_assign _ _ htake ?_ fun e he hm => ?_, ?_⟩
  · rw [h, List.length_take, List.length_nil, tagIdCount] at hlen
    have hpos := List.length_pos_iff.mpr hne
    omega
  · simpa using hdrop
  · exact hdisj _ hm _ (List.fst_mem_of_mem_zipIdx he) rfl
  · rw [hlen, List.length_take]
    exact Nat.min_le_left _ _

/-- The tag set only depends on which tags there are. -/
theorem build_congr {tags tags' : List Tag} (h : ∀ t, t ∈ tags ↔ t ∈ tags') (fallback : Tag) :
    build tags fallback = build tags' fallback := by
  simp only [build]
  split
  · rfl
  · refine congrArg (fun others => Except.ok (number (Text.trim fallback :: others)))
      (ascendingTexts_congr fun u => ?_)
    simp only [List.mem_filter, List.mem_map, h]

/-- A tag set made of tags numbers the fallback tag and then the others, all of them trimmed and not
empty. -/
theorem build_eq_ok {tags : List Tag} {fallback : Tag} {s : TagSet}
    (h : build tags fallback = .ok s) :
    Text.trim fallback ≠ "" ∧ s = number (Text.trim fallback :: ascendingTexts
      ((tags.map Text.trim).filter fun t => !t.isEmpty && t ≠ Text.trim fallback)) := by
  simp only [build] at h
  split at h
  · cases h
  · next hfirst =>
    cases h
    exact ⟨by simpa using hfirst, rfl⟩

/-- A tag set made of tags with a fallback tag is numbered one to one. -/
theorem numbered_of_build {tags : List Tag} {fallback : Tag} {s : TagSet}
    (h : build tags fallback = .ok s) : s.Numbered := by
  obtain ⟨-, rfl⟩ := build_eq_ok h
  refine numbered_number (List.cons_ne_nil _ _) (List.nodup_cons.mpr ⟨fun hm => ?_, ?_⟩)
  · simpa using (List.mem_filter.mp (mem_ascendingTexts.mp hm)).2
  · exact nodup_ascendingTexts _

/-- Taking over numbers one after another only succeeds with tags that have none. -/
theorem numbered_foldlM_assignNew :
    ∀ (entries : List (Tag × Nat)) (names numbered : List Tag), (⟨names⟩ : TagSet).Numbered →
      entries.foldlM assignNew names = .ok numbered → (⟨numbered⟩ : TagSet).Numbered
  | [], _, _, hs, h => by cases h; exact hs
  | e :: rest, names, numbered, hs, h => by
    rw [List.foldlM_cons, assignNew] at h
    split at h
    · cases h
    · next hnew =>
      refine numbered_foldlM_assignNew rest _ numbered ⟨fun he => ?_, ?_, ?_⟩ h
      · have hlen := length_assign names e
        rw [show assign names e = [] from he, List.length_nil] at hlen
        exact hs.nonempty (List.length_eq_zero_iff.mp hlen.symm)
      · exact nodup_assign hs.nodup (by simpa using hnew)
      · exact Nat.le_trans (Nat.le_of_eq (length_assign names e)) hs.size_le

/-- A tag set that is read is numbered one to one. -/
theorem numbered_of_ofNames {names : List Tag} {s : TagSet} (h : ofNames names = .ok s) :
    s.Numbered := by
  simp only [ofNames] at h
  split at h
  · cases h
  · next hblank =>
    split at h
    · cases h
    · next hdup =>
      have hne : names ≠ [] := by rintro rfl; exact hblank rfl
      rw [duplicate?_eq_firstRepeated] at hdup
      have hstart : (⟨names.take tagIdCount⟩ : TagSet).Numbered := by
        refine ⟨fun he => ?_, (nodup_of_firstRepeated_eq_none hdup).1, List.length_take_le _ _⟩
        rw [List.take_eq_nil_iff] at he
        exact he.elim (by decide) hne
      cases hf : (names.drop tagIdCount).zipIdx.foldlM assignNew (names.take tagIdCount) with
      | error e => rw [hf] at h; cases h
      | ok numbered =>
        rw [hf] at h
        cases h
        exact numbered_foldlM_assignNew _ _ _ hstart hf

/-- Every tag set is numbered one to one. -/
theorem Built.numbered {s : TagSet} (h : s.Built) : s.Numbered := by
  cases h with
  | ofBuild h => exact numbered_of_build h
  | ofNames h => exact numbered_of_ofNames h
  | @ofTags tags fallback _ h =>
    rw [TagSet.ofTags] at h
    cases hb : build tags fallback with
    | error e => rw [hb] at h; cases h
    | ok s' =>
      simp only [hb, bind, Except.bind] at h
      split at h
      · cases h
      · cases h
        exact numbered_of_build hb

/-! ### Tags and their numbers -/

variable {s : TagSet} {i j : TagId} {name : Tag}

/-- The number of a tag stands for that tag. -/
theorem name?_of_id? (hs : s.Numbered) (h : s.id? name = some i) : s.name? i = some name := by
  obtain ⟨k, hk, rfl⟩ := Option.map_eq_some_iff.mp h
  obtain ⟨hlt, hget, -⟩ := List.idxOf?_eq_some_iff.mp hk
  have hfit : k < 65536 := Nat.lt_of_lt_of_le hlt hs.size_le
  rw [name?, UInt16.toNat_ofNat_of_lt' hfit, List.getElem?_eq_getElem hlt, hget]

/-- A number that stands for a tag is the number of that tag. -/
theorem id?_of_name? (hs : s.Numbered) (h : s.name? i = some name) : s.id? name = some i := by
  obtain ⟨hlt, hget⟩ := List.getElem?_eq_some_iff.mp h
  have hk : s.names.idxOf? name = some i.toNat := by
    rw [List.idxOf?_eq_some_iff]
    refine ⟨hlt, hget, fun k hk he => ?_⟩
    have heq : k = i.toNat := (hs.nodup.getElem_inj_iff).mp (he.trans hget.symm)
    omega
  rw [id?, hk, Option.map_some, UInt16.ofNat_toNat]

/-- The number of a tag belongs to the tag set. -/
theorem contains_of_id? (hs : s.Numbered) (h : s.id? name = some i) : s.contains i = true := by
  rw [contains, name?_of_id? hs h, Option.isSome_some]

/-- The number of the fallback tag belongs to the tag set. -/
theorem contains_fallback (hs : s.Numbered) : s.contains fallback = true := by
  have hpos : 0 < s.names.length := List.length_pos_iff.mpr hs.nonempty
  have hz : (fallback : TagId).toNat = 0 := rfl
  rw [contains, name?, hz, List.getElem?_eq_getElem hpos, Option.isSome_some]

/-- A number of the tag set stands for the name that is shown for it. -/
theorem name?_eq_nameOrFallback (h : s.contains i = true) :
    s.name? i = some (s.nameOrFallback i) := by
  obtain ⟨name, hn⟩ := Option.isSome_iff_exists.mp h
  rw [nameOrFallback, hn, Option.getD_some]

/-- A number of the tag set shows a name if and only if it is the number of that name. -/
theorem nameOrFallback_eq_iff (hs : s.Numbered) (hi : s.contains i = true)
    (hj : s.id? name = some j) : s.nameOrFallback i = name ↔ i = j := by
  have hni := name?_eq_nameOrFallback hi
  constructor
  · intro he
    rw [he] at hni
    exact Option.some.inj ((id?_of_name? hs hni).symm.trans hj)
  · intro he
    rw [he, name?_of_id? hs hj] at hni
    rw [he]
    exact (Option.some.inj hni).symm

end TagSet

end ShallowTransfer
