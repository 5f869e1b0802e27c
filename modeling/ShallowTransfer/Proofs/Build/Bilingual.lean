import ShallowTransfer.Proofs.Build.Lines
import ShallowTransfer.Proofs.Lexical.Preference
import ShallowTransfer.Proofs.OrderedMap

/-!
Bilingual files by their rows. A line is a row or has one of three faults (`rowOn_or_rowFault`,
`refusedFor_row`): a wrong number of columns, a tag that cannot be read, or a side without forms. A
dictionary is filled row by row (`get_foldl_addRow`), so a word has the entries of the rows that
list it, in the order of the file, and the lemmas are stored in the order in which they are first
listed (`parseDictionary_by_rows`).
-/

namespace ShallowTransfer

namespace Build

/-! ### Rows and faults -/

/-- The columns of a row without the white space around them: target forms, source forms and a tag,
which is empty where there is no third column. -/
inductive Columns (line : List Char) : List Char → List Char → List Char → Prop
  | two {targets sources : List Char} : line.splitOn '\t' = [targets, sources] →
      Columns line (Text.trimChars targets) (Text.trimChars sources) []
  | three {targets sources tag : List Char} : line.splitOn '\t' = [targets, sources, tag] →
      Columns line (Text.trimChars targets) (Text.trimChars sources) (Text.trimChars tag)

/-- The forms in a column are what is between the semicolons, apart from the white space around it,
and where anything else is there. -/
def FormsIn (column : List Char) (fs : List String) : Prop :=
  fs.map String.toList = ((column.splitOn ';').map Text.trimChars).filter fun f => !f.isEmpty

/-- The matcher in the column of the tag: none if the column is empty. -/
def MatcherIn (tag : List Char) (matcher : Option TagMatcher) : Prop :=
  tag = [] ∧ matcher = none ∨
    tag ≠ [] ∧ ∃ m, TagMatcher.parse (String.ofList tag) = .ok m ∧ matcher = some m

/-- The row on a line: forms on both sides, and the matcher of the tag. -/
def RowOn (line : List Char) (r : Row) : Prop :=
  ∃ targets sources tag, Columns line targets sources tag ∧
    FormsIn targets r.targets ∧ FormsIn sources r.sources ∧ MatcherIn tag r.tag ∧
    r.targets ≠ [] ∧ r.sources ≠ []

/-- What is wrong with a line that is no row, and how it is told. -/
inductive RowFault (line : List Char) : String → Prop
  | columns : (line.splitOn '\t').length ≠ 2 → (line.splitOn '\t').length ≠ 3 →
      RowFault line rowMessage
  | tag {targets sources tag : List Char} {e : ConfigError} : Columns line targets sources tag →
      tag ≠ [] → TagMatcher.parse (String.ofList tag) = .error e → RowFault line e.message
  | forms {targets sources tag : List Char} {matcher : Option TagMatcher} :
      Columns line targets sources tag → MatcherIn tag matcher →
      FormsIn targets [] ∨ FormsIn sources [] → RowFault line "empty translation"

/-- The forms of a column are the only ones in it. -/
theorem formsIn_iff {column : List Char} {fs : List String} :
    FormsIn column fs ↔ fs = forms column := by
  have hforms : ((column.splitOn ';').map Text.trimChars).filter (fun f => !f.isEmpty) =
      (forms column).map String.toList := by
    simp [forms, splitAt_eq_splitOn, Function.comp_def]
  rw [FormsIn, hforms]
  exact (List.map_injective_iff.mpr fun _ _ => String.toList_inj.mp).eq_iff

theorem formsIn_nil_iff {column : List Char} : FormsIn column [] ↔ forms column = [] :=
  formsIn_iff.trans eq_comm

theorem matcherIn_or_error (tag : List Char) :
    (∃ matcher, MatcherIn tag matcher) ∨
      tag ≠ [] ∧ ∃ e, TagMatcher.parse (String.ofList tag) = .error e := by
  by_cases htag : tag = []
  · exact .inl ⟨none, .inl ⟨htag, rfl⟩⟩
  · cases hparse : TagMatcher.parse (String.ofList tag) with
    | ok m => exact .inl ⟨some m, .inr ⟨htag, m, hparse, rfl⟩⟩
    | error e => exact .inr ⟨htag, e, rfl⟩

/-- Every line is a row or has a fault. -/
theorem rowOn_or_rowFault (line : List Char) : (∃ r, RowOn line r) ∨ ∃ m, RowFault line m := by
  by_cases hcolumns : ∃ targets sources tag, Columns line targets sources tag
  · obtain ⟨targets, sources, tag, hcolumns⟩ := hcolumns
    rcases matcherIn_or_error tag with ⟨matcher, hmatcher⟩ | ⟨htag, e, he⟩
    · by_cases hforms : FormsIn targets [] ∨ FormsIn sources []
      · exact .inr ⟨_, .forms hcolumns hmatcher hforms⟩
      · rw [not_or, formsIn_nil_iff, formsIn_nil_iff] at hforms
        exact .inl ⟨⟨forms targets, forms sources, matcher⟩, targets, sources, tag, hcolumns,
          formsIn_iff.mpr rfl, formsIn_iff.mpr rfl, hmatcher, hforms⟩
    · exact .inr ⟨_, .tag hcolumns htag he⟩
  · refine .inr ⟨_, .columns (fun htwo => hcolumns ?_) fun hthree => hcolumns ?_⟩
    · obtain ⟨targets, sources, h⟩ := List.length_eq_two.mp htwo
      exact ⟨_, _, _, .two h⟩
    · obtain ⟨targets, sources, tag, h⟩ := List.length_eq_three.mp hthree
      exact ⟨_, _, _, .three h⟩

/-! ### Reading a row -/

section Reading

variable {path : String} {l : Line} {targets sources tag : List Char} {matcher : Option TagMatcher}

theorem Line.row_of_columns (path : String) (h : Columns l.chars targets sources tag) :
    l.row path = l.rowOf path targets sources tag := by
  unfold Line.row Line.columns
  rw [splitAt_eq_splitOn]
  cases h with
  | two h => rw [h]; rfl
  | three h => rw [h]; rfl

theorem Line.matcher_of_matcherIn (path : String) (l : Line) (h : MatcherIn tag matcher) :
    l.matcher path tag = .ok matcher := by
  rcases h with ⟨rfl, rfl⟩ | ⟨htag, m, hm, rfl⟩
  · rfl
  · simp [Line.matcher, htag, hm]

theorem Line.row_of_rowOn {r : Row} (path : String) (h : RowOn l.chars r) :
    l.row path = .ok r := by
  obtain ⟨targets, sources, tag, hcolumns, htargets, hsources, hmatcher, hne, hne'⟩ := h
  rw [Line.row_of_columns path hcolumns, Line.rowOf, l.matcher_of_matcherIn path hmatcher,
    ← formsIn_iff.mp htargets, ← formsIn_iff.mp hsources]
  simp [bind, Except.bind, hne, hne']

theorem Line.row_of_rowFault {m : String} (path : String) (h : RowFault l.chars m) :
    l.row path = .error (l.error path m) := by
  cases h with
  | columns htwo hthree =>
    unfold Line.row Line.columns
    rw [splitAt_eq_splitOn]
    match h : l.chars.splitOn '\t' with
    | [] => rfl
    | [_] => rfl
    | [_, _] => exact absurd (by rw [h]; rfl) htwo
    | [_, _, _] => exact absurd (by rw [h]; rfl) hthree
    | _ :: _ :: _ :: _ :: _ => rfl
  | tag hcolumns htag he =>
    rw [Line.row_of_columns path hcolumns]
    simp [Line.rowOf, Line.matcher, htag, he, bind, Except.bind]
  | forms hcolumns hmatcher hforms =>
    rw [Line.row_of_columns path hcolumns, Line.rowOf, l.matcher_of_matcherIn path hmatcher]
    rw [formsIn_nil_iff, formsIn_nil_iff] at hforms
    rcases hforms with h | h <;> simp [bind, Except.bind, h]

/-- A line is refused as a row exactly for its fault. -/
theorem refusedFor_row (path : String) : RefusedFor RowFault path (Line.row path) := by
  intro l e
  constructor
  · intro h
    rcases rowOn_or_rowFault l.chars with ⟨r, hr⟩ | ⟨m, hm⟩
    · rw [Line.row_of_rowOn path hr] at h
      cases h
    · rw [Line.row_of_rowFault path hm] at h
      cases h
      exact ⟨m, hm, rfl⟩
  · rintro ⟨m, hm, rfl⟩
    exact Line.row_of_rowFault path hm

theorem Line.rowOn_of_row {r : Row} (h : l.row path = .ok r) : RowOn l.chars r := by
  rcases rowOn_or_rowFault l.chars with ⟨r', hr⟩ | ⟨m, hm⟩
  · rw [Line.row_of_rowOn path hr] at h
    cases h
    exact hr
  · rw [Line.row_of_rowFault path hm] at h
    cases h

end Reading

/-! ### Filling a dictionary row by row -/

/-- The entries that a word has from a row: all entries of the row, once for each source form that
is the word in some casing. -/
def Row.entriesFor (r : Row) (word : String) : List Entry :=
  (r.sources.filter fun s => Text.lowercase s = Text.lowercase word).flatMap fun _ => r.entries

theorem addedTo_additions (r : Row) (word : String) :
    Dictionary.addedTo word r.additions = r.entriesFor word := by
  unfold Dictionary.addedTo Row.additions Row.entriesFor
  induction r.sources with
  | nil => rfl
  | cons s sources ih =>
    rw [List.flatMap_cons, List.filter_append, List.map_append, ih]
    by_cases h : Text.lowercase s = Text.lowercase word
    · simp [h, List.filter_map, Function.comp_def]
    · simp [h]

theorem get_addRow (d : Dictionary) (r : Row) (word : String) :
    (addRow d r).get word = d.get word ++ r.entriesFor word := by
  rw [← addedTo_additions, ← Dictionary.get_insertAll]
  rfl

/-- The entries of a word come from the rows in their order. -/
theorem get_foldl_addRow (word : String) (rows : List Row) (d : Dictionary) :
    (rows.foldl addRow d).get word = d.get word ++ rows.flatMap fun r => r.entriesFor word := by
  induction rows generalizing d with
  | nil => simp
  | cons r rows ih => rw [List.foldl_cons, ih, get_addRow, List.append_assoc, List.flatMap_cons]

/-- The entries of a row list its target forms in their order, ranked from zero on, with the tag of
the row and without conditions on neighbours. -/
structure Row.Ranked (r : Row) : Prop where
  ranks : r.entries.map (fun e => (e.target, e.rank.toNat)) = r.targets.zipIdx
  tags : ∀ e ∈ r.entries, e.tag = r.tag ∧ e.prev = none ∧ e.next = none

/-- Ranks have 32 bits, which is enough for as many target forms. -/
theorem Row.ranked {r : Row} (h : r.targets.length ≤ 2 ^ 32) : r.Ranked where
  ranks := by
    rw [Row.entries, List.map_map]
    refine (List.map_congr_left fun t ht => ?_).trans (List.map_id _)
    have hlt : t.2 < 2 ^ 32 := Nat.lt_of_lt_of_le (List.mem_zipIdx' ht).1 h
    exact Prod.ext rfl (UInt32.toNat_ofNat_of_lt' hlt)
  tags e he := by
    obtain ⟨t, -, rfl⟩ := List.mem_map.mp he
    exact ⟨rfl, rfl, rfl⟩

end Build

/-! ### The order of lemmas -/

namespace Dictionary

theorem keys_insert (d : Dictionary) (headword : String) (e : Entry) :
    (d.insert headword e).entries.keys =
      OrderedMap.addKey d.entries.keys (Text.lowercase headword) :=
  OrderedMap.keys_alter_eq_addKey _ _ _

/-- Some entries of one lemma add this lemma. -/
theorem keys_foldl_insert (headword : String) {es : List Entry} (hne : es ≠ []) (d : Dictionary) :
    (es.foldl (fun d e => d.insert headword e) d).entries.keys =
      OrderedMap.addKey d.entries.keys (Text.lowercase headword) := by
  induction es generalizing d with
  | nil => exact absurd rfl hne
  | cons e es ih =>
    rw [List.foldl_cons]
    by_cases hes : es = []
    · rw [hes, List.foldl_nil, keys_insert]
    · -- The lemma is already there when the other entries come.
      rw [ih hes, keys_insert, OrderedMap.addKey_of_mem (OrderedMap.mem_addKey _ _)]

end Dictionary

namespace Build

/-- A row with target forms adds its source forms, in lower case. -/
theorem keys_addRow {r : Row} (hne : r.targets ≠ []) (d : Dictionary) :
    (addRow d r).entries.keys =
      (r.sources.map Text.lowercase).foldl OrderedMap.addKey d.entries.keys := by
  have hentries : r.entries ≠ [] := by simpa [Row.entries] using hne
  rw [addRow, Row.additions, List.foldl_flatMap, List.foldl_map]
  induction r.sources generalizing d with
  | nil => rfl
  | cons s sources ih =>
    rw [List.foldl_cons, List.foldl_cons, ih, List.foldl_map, Dictionary.keys_foldl_insert s hentries]

theorem keys_foldl_addRow {rows : List Row} (hne : ∀ r ∈ rows, r.targets ≠ []) (d : Dictionary) :
    (rows.foldl addRow d).entries.keys =
      ((rows.flatMap Row.sources).map Text.lowercase).foldl OrderedMap.addKey d.entries.keys := by
  induction rows generalizing d with
  | nil => rfl
  | cons r rows ih =>
    rw [List.forall_mem_cons] at hne
    rw [List.foldl_cons, ih hne.2, keys_addRow hne.1, List.flatMap_cons, List.map_append,
      List.foldl_append]

theorem options_addRow (d : Dictionary) (r : Row) : (addRow d r).options = d.options :=
  List.foldlRecOn (motive := fun d' : Dictionary => d'.options = d.options) r.additions _ rfl
    fun _ hd _ _ => hd

/-- A file is read exactly if each line but for comments and blank ones is a row, and it is refused
for the first fault. The dictionary has the entries of all rows in their order: a word has those of
each row once for each of its source forms that is the word in some casing, in the order of the
target forms and ranked by it. The lemmas are the source forms in lower case, in the order in which
they first come. -/
theorem parseDictionary_by_rows (text path : String) (options : DictionaryOptions) :
    ((∃ d, parseDictionary text path options = .ok d) ↔
        ∀ line ∈ textLines text.toList, isEntry line = true → ∀ m, ¬ RowFault line m) ∧
      (∀ e, parseDictionary text path options = .error e ↔
        ∃ n m, FirstFault RowFault (textLines text.toList) n m ∧ e = .parse path n m) ∧
      ∀ d, parseDictionary text path options = .ok d →
        ∃ rows, List.Forall₂ RowOn ((textLines text.toList).filter isEntry) rows ∧
          (∀ word, d.get word = rows.flatMap fun r => r.entriesFor word) ∧
          (∀ r ∈ rows, r.targets.length ≤ 2 ^ 32 → r.Ranked) ∧
          d.entries.keys = ((rows.flatMap Row.sources).map Text.lowercase).eraseDups ∧
          d.options = options := by
  have hparse : parseDictionary text path options =
      (entryLines text).mapM (Line.row path) >>= fun rows =>
        .ok (rows.foldl addRow (Dictionary.empty options)) := rfl
  have hrefused := refusedFor_row path
  refine ⟨?_, fun e => ?_, fun d hd => ?_⟩
  · rw [← hrefused.exists_mapM_iff, ← error?_eq_none_iff, ← error?_eq_none_iff, hparse,
      error?_bind_ok]
  · rw [← hrefused.mapM_eq_error_iff, ← error?_eq_some_iff, ← error?_eq_some_iff, hparse,
      error?_bind_ok]
  · rw [hparse] at hd
    obtain ⟨rows, hrows, hd⟩ := bind_eq_ok_iff.mp hd
    cases hd
    have hon : List.Forall₂ RowOn ((textLines text.toList).filter isEntry) rows := by
      rw [← map_chars_entryLines, List.forall₂_map_left_iff]
      exact (mapM_eq_ok_iff.mp hrows).imp fun _ _ => Line.rowOn_of_row
    have hne : ∀ r ∈ rows, r.targets ≠ [] := by
      intro r hr
      obtain ⟨line, -, _, _, _, -, -, -, -, hne, -⟩ := exists_of_mem_forall₂ hon hr
      exact hne
    refine ⟨rows, hon, fun word => ?_, fun r _ h => Row.ranked h, ?_, ?_⟩
    · rw [get_foldl_addRow]
      rfl
    · rw [keys_foldl_addRow hne, ← OrderedMap.foldl_addKey]
      rfl
    · exact List.foldlRecOn (motive := fun d : Dictionary => d.options = options) rows _ rfl
        fun d hd r _ => (options_addRow d r).trans hd

end Build

end ShallowTransfer
