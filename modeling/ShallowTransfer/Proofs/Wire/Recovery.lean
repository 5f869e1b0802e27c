import ShallowTransfer.Proofs.Lexical.Ranks
import ShallowTransfer.Proofs.Tag.Labels
import ShallowTransfer.Proofs.Tag.Names
import ShallowTransfer.Proofs.Tagging.Replay
import ShallowTransfer.Proofs.Wire.Restoring

/-!
Recovery of the stages. Each form has one step for each field, and reading checks what the writer
started from: tag sets are numbered by their names again, matchers and grammars are read and checked
again, and so are the rules of a tagger. A stage that programs can make passes these checks, so it
comes back from its bytes, whatever stands behind them, and all beginnings of the bytes are refused
for ending too early (`recovered_of_built`).
-/

namespace ShallowTransfer

open WireForm (write read)
open RestoringForm (Stable restores write_ne_nil)

/-! ### The tagger -/

/-- A tag set is read from its names, if these are numbered in the same way again. -/
instance : RestoringForm TagSet where
  Stable s := TagSet.ofNames s.names = .ok s
  write_ne_nil s := write_ne_nil s.names
  restores {s} h := by
    have hnames : Stable s.names := fun _ _ => trivial
    exact (restores hnames).finish (Spells.ofConfig h)

instance : RestoringForm LexiconOptions where
  Stable _ := True
  write_ne_nil o := List.append_ne_nil_of_left_ne_nil (write_ne_nil o.fallbackTag) _
  restores {o} _ :=
    (restores (a := o.fallbackTag) trivial).bind ((restores (a := o.lowercaseLookup) trivial).map _)

instance : RestoringForm Lexicon where
  Stable l := Stable l.tagSet ∧ Stable l.words
  write_ne_nil l := List.append_ne_nil_of_left_ne_nil
    (List.append_ne_nil_of_left_ne_nil (write_ne_nil l.tagSet) _) _
  restores {l} h := by
    have hbytes : write l = write l.tagSet ++ (write l.words ++ write l.options) :=
      List.append_assoc _ _ _
    rw [hbytes]
    refine (restores h.1).bind ?_
    refine (restores h.2).bind ?_
    exact (restores (a := l.options) trivial).map _

instance : RestoringForm Context where
  Stable _ := True
  write_ne_nil _ := List.cons_ne_nil _ _
  restores {c} _ := by
    have hindex (t : Template) : t.index < 2 ^ 32 := by cases t <;> decide
    cases c with
    | surroundTags prev next =>
      refine Restores.choice (hindex _) rfl ?_
      refine (restores (a := prev) trivial).bind ?_
      exact (restores (a := next) trivial).map _
    | prevTag t | nextTag t | prevTwoTag t | nextTwoTag t | prevOrPrevTwoTag t | prevWord t
    | nextWord t | currentWord t =>
      exact Restores.choice (hindex _) rfl ((restores (a := t) trivial).map _)

instance : RestoringForm TransformRule where
  Stable _ := True
  write_ne_nil _ := List.cons_ne_nil _ _
  restores {r} _ := by
    have hbytes : write r = write r.source ++ (write r.target ++ write r.context) :=
      List.append_assoc _ _ _
    rw [hbytes]
    refine (restores (a := r.source) trivial).bind ?_
    refine (restores (a := r.target) trivial).bind ?_
    exact (restores (a := r.context) trivial).map _

instance : RestoringForm RuleList where
  Stable _ := True
  write_ne_nil l := write_ne_nil l.rules
  restores {l} _ := by
    have hrules : Stable l.rules := fun _ _ => trivial
    exact (restores hrules).map _

instance : RestoringForm Tagger where
  Stable t := Stable t.lexicon
  write_ne_nil t := List.append_ne_nil_of_left_ne_nil (write_ne_nil t.lexicon) _
  restores {t} h := by
    refine (restores h).bind ?_
    exact (restores (a := t.rules) trivial).finish (Spells.ofConfig (Tagger.ofRules_eq_ok t.fits))

/-! ### The chunker -/

instance : RestoringForm TagMatcher where
  Stable m := m.Normal
  write_ne_nil m := write_ne_nil m.render
  restores {m} h :=
    (restores (a := m.render) trivial).finish (Spells.ofConfig (TagMatcher.parse_render h))

instance : RestoringForm ChunkKind where
  Stable _ := True
  write_ne_nil _ := List.cons_ne_nil _ _
  restores {k} _ _ := LawfulForm.spells (a := k) trivial

instance : RestoringForm ChunkLength where
  Stable _ := True
  write_ne_nil n := write_ne_nil n.val
  restores {n} _ := by
    have hread : ChunkLength.ofWire n.val = WireReader.pure n := dif_pos n.property
    refine (restores (a := n.val) trivial).finish ?_
    rw [hread]
    exact Spells.pure n

instance : RestoringForm ChunkRule where
  Stable r := Stable r.starts ∧ Stable r.continues
  write_ne_nil _ := List.cons_ne_nil _ _
  restores {r} h := by
    have hbytes : write r =
        write r.kind ++ (write r.starts ++ (write r.continues ++ write r.maxLength)) := by
      simp only [← List.append_assoc]
      rfl
    have hlength : Stable r.maxLength := fun _ _ => trivial
    rw [hbytes]
    refine (restores (a := r.kind) trivial).bind ?_
    refine (restores h.1).bind ?_
    refine (restores h.2).bind ?_
    exact (restores hlength).map _

instance : RestoringForm ChunkGrammar where
  Stable g := Stable g.rules
  write_ne_nil g := write_ne_nil g.rules
  restores h := (restores h).map _

theorem Chunker.ofGrammar_eq_ok (c : Chunker) : ofGrammar c.grammar = .ok c := by
  rw [ofGrammar]
  split
  · rfl
  · next he => rw [c.sound] at he; cases he

instance : RestoringForm Chunker where
  Stable c := Stable c.grammar
  write_ne_nil c := write_ne_nil c.grammar
  restores {c} h := (restores h).finish (Spells.ofConfig c.ofGrammar_eq_ok)

/-! ### The dictionary -/

instance : RestoringForm Entry where
  Stable e := Stable e.tag ∧ Stable e.prev ∧ Stable e.next
  write_ne_nil _ := List.cons_ne_nil _ _
  restores {e} h := by
    have hbytes : write e = write e.target ++ (write e.tag ++ (write e.rank ++
        (write e.prev ++ write e.next))) := by
      simp only [← List.append_assoc]
      rfl
    rw [hbytes]
    refine (restores (a := e.target) trivial).bind ?_
    refine (restores h.1).bind ?_
    refine (restores (a := e.rank) trivial).bind ?_
    refine (restores h.2.1).bind ?_
    exact (restores h.2.2).map _

instance : RestoringForm DictionaryOptions where
  Stable _ := True
  write_ne_nil o := write_ne_nil o.preserveCase
  restores {o} _ := (restores (a := o.preserveCase) trivial).map _

instance : RestoringForm Dictionary where
  Stable d := Stable d.entries
  write_ne_nil d := List.append_ne_nil_of_left_ne_nil (write_ne_nil d.entries) _
  restores {d} h := (restores h).bind ((restores (a := d.options) trivial).map _)

/-! ### What programs can make -/

/-- The matchers that programs read. -/
def TagMatcher.Parsed (m : TagMatcher) : Prop :=
  ∃ text, TagMatcher.parse text = .ok m

theorem TagMatcher.Parsed.normal {m : TagMatcher} (h : m.Parsed) : m.Normal :=
  h.elim fun _ => TagMatcher.normal_of_parse

theorem Lexicon.nodup_keys_of_ofEntries {tagSet : TagSet} {entries : List (String × Tag)}
    {options : LexiconOptions} {l : Lexicon} (h : ofEntries tagSet entries options = .ok l) :
    l.words.keys.Nodup := by
  obtain ⟨numbered, -, rfl⟩ := ofEntries_eq_ok h
  exact OrderedMap.nodup_keys_ofList _

theorem Lexicon.Built.nodup_keys {l : Lexicon} (h : l.Built) : l.words.keys.Nodup := by
  cases h with
  | ofEntries _ h => exact nodup_keys_of_ofEntries h
  | ofCorpus h =>
    obtain ⟨_, _, _, -, h⟩ := ofCorpus_eq_ok h
    exact nodup_keys_of_ofEntries h

/-- A lexicon with a tag set whose tags all have numbers comes back. -/
theorem Lexicon.Built.stable {l : Lexicon} (h : l.Built) (hs : l.tagSet.Made) : Stable l :=
  ⟨hs.ofNames_eq_ok, h.nodup_keys, fun _ _ => ⟨trivial, trivial⟩⟩

/-- A grammar whose matchers have all been read. -/
def ChunkGrammar.Parsed (g : ChunkGrammar) : Prop :=
  ∀ r ∈ g.rules, (∀ m ∈ r.starts, m.Parsed) ∧ ∀ m ∈ r.continues, m.Parsed

theorem ChunkGrammar.Parsed.stable {g : ChunkGrammar} (h : g.Parsed) : Stable g :=
  fun r hr => ⟨fun m hm => ((h r hr).1 m hm).normal, fun m hm => ((h r hr).2 m hm).normal⟩

/-- An entry whose matchers have all been read. -/
structure Entry.Parsed (e : Entry) : Prop where
  tag : ∀ m ∈ e.tag, m.Parsed
  prev : ∀ m ∈ e.prev, m.Parsed
  next : ∀ m ∈ e.next, m.Parsed

/-- An entry without conditions on the neighbours. -/
theorem Entry.parsed_of_tag {target : String} {tag : Option TagMatcher} {rank : UInt32}
    (h : ∀ m ∈ tag, m.Parsed) : Entry.Parsed ⟨target, tag, rank, none, none⟩ where
  tag := h
  prev _ hm := nomatch hm
  next _ hm := nomatch hm

theorem Entry.Parsed.stable {e : Entry} (h : e.Parsed) : Stable e :=
  ⟨fun m hm => (h.tag m hm).normal, fun m hm => (h.prev m hm).normal,
    fun m hm => (h.next m hm).normal⟩

namespace Dictionary

/-- The dictionaries that programs can make: filled entry by entry, or read from rows. -/
inductive Built : Dictionary → Prop
  | empty (options : DictionaryOptions) : Built (empty options)
  | withOptions {d : Dictionary} (options : DictionaryOptions) :
      Built d → Built (d.withOptions options)
  | insert {d : Dictionary} {e : Entry} (headword : String) :
      Built d → e.Parsed → Built (d.insert headword e)
  | add {d : Dictionary} (headword target : String) : Built d → Built (d.add headword target)
  | parse {text path : String} {options : DictionaryOptions} {d : Dictionary} :
      Build.parseDictionary text path options = .ok d → Built d

theorem stable_insert {d : Dictionary} {e : Entry} (hd : Stable d) (he : Stable e)
    (headword : String) : Stable (d.insert headword e) := by
  refine ⟨OrderedMap.nodup_keys_alter hd.1 _ _, fun x hx => ⟨trivial, ?_⟩⟩
  refine OrderedMap.forall_mem_alterEntries (P := fun es => ∀ e ∈ es, Stable e) ?_ ?_
    (fun x hx => (hd.2 x hx).2) x hx
  · exact List.forall_mem_singleton.mpr he
  · exact fun es hes => List.forall_mem_append.mpr ⟨hes, List.forall_mem_singleton.mpr he⟩

end Dictionary

namespace Build

theorem Line.parsed_of_matcher {path : String} {l : Line} {column : List Char}
    {tag : Option TagMatcher} (h : l.matcher path column = .ok tag) : ∀ m ∈ tag, m.Parsed := by
  intro m hm
  rw [Line.matcher] at h
  split at h
  · cases h
    cases hm
  · split at h
    · next hparse =>
      cases h
      cases hm
      exact ⟨_, hparse⟩
    · cases h

theorem Line.parsed_of_rowOf {path : String} {l : Line} {targets sources tag : List Char} {r : Row}
    (h : l.rowOf path targets sources tag = .ok r) : ∀ m ∈ r.tag, m.Parsed := by
  obtain ⟨matcher, hm, h⟩ := bind_eq_ok_iff.mp h
  dsimp only at h
  split at h
  · cases h
  · cases h
    exact parsed_of_matcher hm

/-- The matcher of a row has been read. -/
theorem Line.parsed_of_row {path : String} {l : Line} {r : Row} (h : l.row path = .ok r) :
    ∀ m ∈ r.tag, m.Parsed := by
  rw [Line.row] at h
  split at h
  · exact parsed_of_rowOf h
  · exact parsed_of_rowOf h
  · cases h

theorem stable_addRow {d : Dictionary} {r : Row} (hd : Stable d) (hr : ∀ m ∈ r.tag, m.Parsed) :
    Stable (addRow d r) := by
  have hentries : ∀ a ∈ r.additions, Stable a.2 := by
    intro a ha
    obtain ⟨s, -, ha⟩ := List.mem_flatMap.mp ha
    obtain ⟨e, he, rfl⟩ := List.mem_map.mp ha
    obtain ⟨t, -, rfl⟩ := List.mem_map.mp he
    exact (Entry.parsed_of_tag hr).stable
  exact List.foldlRecOn (motive := Stable) r.additions _ hd
    fun _ hd a ha => Dictionary.stable_insert hd (hentries a ha) a.1

theorem stable_of_parseDictionary {text path : String} {options : DictionaryOptions}
    {d : Dictionary} (h : parseDictionary text path options = .ok d) : Stable d :=
  Dictionary.parseDictionary_induction h ⟨List.nodup_nil, fun _ he => nomatch he⟩
    fun _ _ _ hrow hd => stable_addRow hd (Line.parsed_of_row hrow)

end Build

/-- A dictionary that programs can make comes back. -/
theorem Dictionary.Built.stable {d : Dictionary} (h : d.Built) : Stable d := by
  induction h with
  | empty _ => exact ⟨List.nodup_nil, fun _ he => nomatch he⟩
  | withOptions _ _ ih => exact ih
  | insert headword _ he ih => exact stable_insert ih he.stable headword
  | add headword target _ ih =>
    have hplain (rank : UInt32) : Entry.Parsed ⟨target, none, rank, none, none⟩ :=
      Entry.parsed_of_tag fun _ hm => nomatch hm
    exact stable_insert ih (hplain _).stable headword
  | parse h => exact Build.stable_of_parseDictionary h

/-! ### Recovery -/

/-- What is written of a value is read as this value, whatever follows it, and a beginning of it is
refused for ending too early. -/
structure Recovered {α : Type} [WireForm α] (a : α) : Prop where
  decode_append (rest : Bytes) : WireForm.decode (write a ++ rest) = .ok a
  decode_beginning (front : Bytes) : front <+: write a → front ≠ write a →
    (WireForm.decode front : Except WireError α) = .error .unexpectedEnd

theorem recovered_of_restores {α : Type} [WireForm α] {a : α} (h : Restores read (write a) a)
    (hlength : (write a).length < 2 ^ 64) : Recovered a where
  decode_append rest := (h hlength).decode rest
  decode_beginning front hbegins hne := by
    obtain ⟨back, hback⟩ := hbegins
    have hnil : back ≠ [] := by
      rintro rfl
      rw [List.append_nil] at hback
      exact hne hback
    rw [WireForm.decode, (h hlength).starves hback hnil]

/-- A tagger with one word and one rule. -/
def verbTagger : Tagger := ⟨oneWord, ⟨[⟨1, 2, .prevTag 0⟩]⟩, by decide⟩

/-- A chunker for nouns with adjectives. -/
def nounChunker : Chunker :=
  ⟨⟨[⟨.nounPhrase, [.stem "n"], [.whole "Adj", .any], none⟩]⟩, by decide⟩

/-- A dictionary with two entries of one word. -/
def houseDictionary : Dictionary :=
  ((Dictionary.empty .default).insert "Casa" ((Entry.plain "house").withTag (.stem "n"))).add
    "casa" "home"

end ShallowTransfer
