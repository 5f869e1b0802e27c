import Mathlib.Algebra.GroupWithZero.Nat
import ShallowTransfer.Build.Bilingual
import ShallowTransfer.Proofs.Sorting
import ShallowTransfer.Proofs.Traversal

/-!
Ranks of dictionary entries. A lookup takes the best usable entry, and of equally good ones the
first (`best?_eq_some`); so an entry at the end is taken only where it is better than all others
(`best?_concat`). An entry that is added to a lemma is ranked by the number of entries that are
there already. This is below all of them where no entry was ranked above the number of entries
before it (`Filled`), which is so for added entries and for the rows of files; an entry with a
higher rank may come behind the new one (`add_ranked_last`).
-/

namespace ShallowTransfer

namespace Entry

variable {tag : Tag} {a b c e : Entry} {es : List Entry}

/-! ### The best entry -/

/-- Whether an entry is at least as good for a tag as another one. -/
def AsGood (tag : Tag) (a b : Entry) : Prop :=
  preferred tag b a = false

theorem asGood_iff : AsGood tag a b ↔
    a.tier tag < b.tier tag ∨ a.tier tag = b.tier tag ∧ a.rank.toNat ≤ b.rank.toNat := by
  rw [AsGood, ← Bool.not_eq_true, preferred, Bool.or_eq_true, Bool.and_eq_true, Nat.blt_eq,
    Nat.beq_eq, Nat.blt_eq]
  omega

theorem AsGood.refl (tag : Tag) (a : Entry) : AsGood tag a a :=
  asGood_iff.mpr (.inr ⟨rfl, Nat.le_refl _⟩)

theorem AsGood.trans (hab : AsGood tag a b) (hbc : AsGood tag b c) : AsGood tag a c := by
  rw [asGood_iff] at hab hbc ⊢
  omega

/-- The better one of two entries is one of them and as good as both. -/
theorem better_spec (tag : Tag) (a b : Entry) :
    (better tag a b = a ∨ better tag a b = b) ∧
      AsGood tag (better tag a b) a ∧ AsGood tag (better tag a b) b := by
  unfold better
  split
  · next hpref =>
    refine ⟨.inr rfl, ?_, .refl tag b⟩
    rw [preferred, Bool.or_eq_true, Bool.and_eq_true, Nat.blt_eq, Nat.beq_eq, Nat.blt_eq] at hpref
    rw [asGood_iff]
    omega
  · next hpref => exact ⟨.inl rfl, .refl tag a, Bool.eq_false_iff.mpr hpref⟩

theorem chooses_better (tag : Tag) : Chooses (AsGood tag) (better tag) :=
  ⟨AsGood.refl tag, AsGood.trans, better_spec tag⟩

/-- The best of some entries is one of them and as good as all of them. -/
theorem best?_eq_some (h : best? tag es = some b) : b ∈ es ∧ ∀ a ∈ es, AsGood tag b a := by
  cases es with
  | nil => cases h
  | cons e rest =>
    cases h
    exact (chooses_better tag).foldl rest e

theorem best?_eq_none_iff : best? tag es = none ↔ es = [] := by
  cases es <;> simp [best?]

/-- One more entry is tried against the best one of those before it. -/
theorem best?_concat (tag : Tag) (es : List Entry) (e : Entry) :
    best? tag (es ++ [e]) = some (((best? tag es).map fun b => better tag b e).getD e) := by
  cases es with
  | nil => rfl
  | cons a rest => simp [best?]

/-- An entry at the end is not taken where one before it is as good. -/
theorem best?_concat_of_asGood (h : ∃ a ∈ es, AsGood tag a e) :
    best? tag (es ++ [e]) = best? tag es := by
  obtain ⟨a, ha, hgood⟩ := h
  rw [best?_concat]
  cases hbest : best? tag es with
  | none =>
    rw [best?_eq_none_iff.mp hbest] at ha
    cases ha
  | some b =>
    have hnot : preferred tag e b = false := ((best?_eq_some hbest).2 a ha).trans hgood
    simp [better, hnot]

/-- An entry at the end is taken where it is better than all before it. -/
theorem best?_concat_of_not_asGood (h : ∀ a ∈ es, ¬ AsGood tag a e) :
    best? tag (es ++ [e]) = some e := by
  rw [best?_concat]
  cases hbest : best? tag es with
  | none => rfl
  | some b =>
    have hpref : preferred tag e b = true := by
      simpa [AsGood] using h b (best?_eq_some hbest).1
    simp [better, hpref]

/-- The entries without a tag make up a tier of their own. -/
theorem tier_eq_two_iff : e.tier tag = 2 ↔ e.tag = none := by
  unfold tier
  split
  · next htag =>
    rw [htag]
    split
    · simp
    · split <;> simp
  · next htag => simp [htag]

end Entry

namespace Dictionary

/-! ### Entries of a lemma -/

variable {d : Dictionary}

theorem get_congr (d : Dictionary) {word headword : String}
    (h : Text.lowercase word = Text.lowercase headword) : d.get word = d.get headword := by
  rw [get, get, h]

/-- A new entry goes to the end of its lemma. -/
theorem get_insert (d : Dictionary) (word headword : String) (e : Entry) :
    (d.insert headword e).get word =
      if Text.lowercase headword = Text.lowercase word then d.get word ++ [e] else d.get word := by
  unfold get insert
  rw [OrderedMap.get?_alter]
  split
  · next h => rw [h, Option.getD_some]
  · rfl

/-- A word is not found where none of its entries is usable. -/
theorem lookup_eq_none_iff {word : String} {tag : Tag} {prev next : Option Tag} :
    d.lookup word tag prev next = none ↔ ∀ e ∈ d.get word, e.usable prev next = false := by
  simp only [lookup, Entry.best?_eq_none_iff, List.filter_eq_nil_iff, Bool.not_eq_true]

/-! ### Ranks below the number of entries -/

/-- All ranks of a lemma are below the number of its entries. -/
def RanksBelow (d : Dictionary) : Prop :=
  ∀ headword, ∀ e ∈ d.get headword, e.rank.toNat < (d.get headword).length

/-- An entry may be ranked by the number of entries before it, or lower. -/
theorem RanksBelow.insert (h : d.RanksBelow) {headword : String} {e : Entry}
    (hrank : e.rank.toNat ≤ (d.get headword).length) : (d.insert headword e).RanksBelow := by
  intro word a ha
  rw [get_insert] at ha ⊢
  split at ha
  · next hword =>
    rw [if_pos hword, List.length_append, List.length_singleton]
    rcases List.mem_append.mp ha with ha | ha
    · have := h word a ha
      omega
    · rw [List.mem_singleton.mp ha, d.get_congr hword.symm]
      omega
  · next hword =>
    rw [if_neg hword]
    exact h word a ha

theorem toNat_ofNat_le (n : Nat) : (UInt32.ofNat n).toNat ≤ n := by
  rw [UInt32.toNat_ofNat']
  exact Nat.mod_le _ _

theorem RanksBelow.add (h : d.RanksBelow) (headword target : String) :
    (d.add headword target).RanksBelow :=
  h.insert (toNat_ofNat_le _)

/-- The target forms of a row are ranked by their places, so each of them has enough entries before
it. -/
theorem RanksBelow.foldl_targets (tag : Option TagMatcher) (headword : String) :
    ∀ (targets : List String) (n : Nat) {d : Dictionary}, d.RanksBelow →
      n ≤ (d.get headword).length →
        RanksBelow ((targets.zipIdx n).foldl (fun d t => d.insert headword
          { Entry.plain t.1 with tag := tag, rank := UInt32.ofNat t.2 }) d)
  | [], _, _, h, _ => h
  | target :: rest, n, d, h, hn => by
    rw [List.zipIdx_cons, List.foldl_cons]
    refine RanksBelow.foldl_targets tag headword rest (n + 1)
      (h.insert (Nat.le_trans (toNat_ofNat_le n) hn)) ?_
    rw [get_insert, if_pos rfl, List.length_append, List.length_singleton]
    omega

theorem RanksBelow.addRow (h : d.RanksBelow) (r : Build.Row) : (Build.addRow d r).RanksBelow := by
  rw [Build.addRow, Build.Row.additions]
  generalize r.sources = sources
  induction sources generalizing d with
  | nil => exact h
  | cons headword rest ih =>
    rw [List.flatMap_cons, List.foldl_append]
    refine ih ?_
    rw [List.foldl_map, Build.Row.entries, List.foldl_map]
    exact RanksBelow.foldl_targets r.tag headword r.targets 0 h (Nat.zero_le _)

/-- What holds of the dictionary without lemmas and is kept by the rows that lines hold is so for
what is read from a file. -/
theorem parseDictionary_induction {P : Dictionary → Prop} {text path : String}
    {options : DictionaryOptions} (h : Build.parseDictionary text path options = .ok d)
    (hempty : P (empty options))
    (hrow : ∀ (l : Build.Line) d r, l.row path = .ok r → P d → P (Build.addRow d r)) : P d := by
  obtain ⟨rows, hrows, h⟩ := bind_eq_ok_iff.mp h
  cases h
  refine List.foldlRecOn rows Build.addRow hempty fun d hd r hr => ?_
  obtain ⟨l, -, hl⟩ := exists_of_mem_forall₂ (mapM_eq_ok_iff.mp hrows) hr
  exact hrow l d r hl hd

theorem ranksBelow_of_parseDictionary {text path : String} {options : DictionaryOptions}
    (h : Build.parseDictionary text path options = .ok d) : d.RanksBelow :=
  parseDictionary_induction h (fun _ _ he => nomatch he) fun _ _ r _ hd => hd.addRow r

/-- Dictionaries that are read from files, or filled entry by entry where no entry is ranked above
the number of entries before it. -/
inductive Filled : Dictionary → Prop
  | empty (options : DictionaryOptions) : Filled (empty options)
  | parse {text path : String} {options : DictionaryOptions} {d : Dictionary} :
      Build.parseDictionary text path options = .ok d → Filled d
  | withOptions {d : Dictionary} (options : DictionaryOptions) :
      Filled d → Filled (d.withOptions options)
  | add {d : Dictionary} (headword target : String) : Filled d → Filled (d.add headword target)
  | insert {d : Dictionary} {e : Entry} (headword : String) :
      Filled d → e.rank.toNat ≤ (d.get headword).length → Filled (d.insert headword e)

theorem Filled.ranksBelow (h : d.Filled) : d.RanksBelow := by
  induction h with
  | empty _ => exact fun _ _ he => nomatch he
  | parse h => exact ranksBelow_of_parseDictionary h
  | withOptions _ _ ih => exact ih
  | add headword target _ ih => exact ih.add headword target
  | insert headword _ hrank ih => exact ih.insert hrank

/-! ### Added entries -/

/-- An added entry is taken where no usable entry of the lemma has a matching tag, or has no tag and
is ranked at most as high. -/
theorem lookup_add (d : Dictionary) {word headword : String} (target : String) (tag : Tag)
    (prev next : Option Tag) (hword : Text.lowercase word = Text.lowercase headword) :
    (d.add headword target).lookup word tag prev next =
      if ∃ e ∈ d.get headword, e.usable prev next = true ∧ (e.tier tag < 2 ∨
          e.tag = none ∧ e.rank ≤ UInt32.ofNat (d.get headword).length) then
        d.lookup word tag prev next
      else some ((Entry.plain target).withRank (UInt32.ofNat (d.get headword).length)) := by
  have hgood {e : Entry} : Entry.AsGood tag e
      ((Entry.plain target).withRank (UInt32.ofNat (d.get headword).length)) ↔
        e.tier tag < 2 ∨ e.tag = none ∧ e.rank ≤ UInt32.ofNat (d.get headword).length := by
    rw [Entry.asGood_iff, ← @Entry.tier_eq_two_iff tag, UInt32.le_iff_toNat_le]
    rfl
  have husable : ((Entry.plain target).withRank
      (UInt32.ofNat (d.get headword).length)).usable prev next = true := rfl
  rw [lookup, lookup, add, get_insert, if_pos hword.symm, List.filter_append,
    List.filter_cons_of_pos (by exact husable), List.filter_nil, d.get_congr hword]
  split
  · next hex =>
    obtain ⟨e, he, hu, hbetter⟩ := hex
    exact Entry.best?_concat_of_asGood ⟨e, List.mem_filter.mpr ⟨he, hu⟩, hgood.mpr hbetter⟩
  · next hnone =>
    refine Entry.best?_concat_of_not_asGood fun e he hbetter => hnone ?_
    obtain ⟨he, hu⟩ := List.mem_filter.mp he
    exact ⟨e, he, hu, hgood.mp hbetter⟩

/-- An added entry goes to the end of its lemma, in any casing. It is ranked behind all entries of
the lemma exactly where their ranks are below their number, counted modulo 2^32, and it is taken
exactly where no usable entry has a matching tag, or has no tag and is ranked at most as high. In
filled dictionaries with fewer than 2^32 entries of the lemma it is always ranked behind them, and
never taken where an entry without a tag is usable. -/
theorem add_ranked_last (d : Dictionary) (headword target : String) :
    ∃ new : Entry, new.target = target ∧ new.tag = none ∧ new.prev = none ∧ new.next = none ∧
      (∀ word, Text.lowercase word = Text.lowercase headword →
        (d.add headword target).get word = d.get headword ++ [new]) ∧
      ((∀ e ∈ d.get headword, e.rank < new.rank) ↔
        ∀ e ∈ d.get headword, e.rank.toNat < (d.get headword).length % 2 ^ 32) ∧
      (∀ word tag prev next, Text.lowercase word = Text.lowercase headword →
        (d.add headword target).lookup word tag prev next =
          if ∃ e ∈ d.get headword, e.usable prev next = true ∧
              (e.tier tag < 2 ∨ e.tag = none ∧ e.rank ≤ new.rank) then
            d.lookup word tag prev next
          else some new) ∧
      (d.Filled → (d.get headword).length < 2 ^ 32 →
        (∀ e ∈ d.get headword, e.rank < new.rank) ∧
          ∀ word tag prev next, Text.lowercase word = Text.lowercase headword →
            (∃ e ∈ d.get headword, e.tag = none ∧ e.usable prev next = true) →
              (d.add headword target).lookup word tag prev next =
                d.lookup word tag prev next) := by
  have hrank : (∀ e ∈ d.get headword, e.rank < UInt32.ofNat (d.get headword).length) ↔
      ∀ e ∈ d.get headword, e.rank.toNat < (d.get headword).length % 2 ^ 32 := by
    simp only [UInt32.lt_iff_toNat_lt, UInt32.toNat_ofNat']
  refine ⟨(Entry.plain target).withRank (UInt32.ofNat (d.get headword).length), rfl, rfl, rfl, rfl,
    fun word hword => ?_, hrank,
    fun word tag prev next hword => d.lookup_add target tag prev next hword,
    fun hfilled hfew => ?_⟩
  · rw [add, get_insert, if_pos hword.symm, d.get_congr hword]
  · have hbelow : ∀ e ∈ d.get headword, e.rank < UInt32.ofNat (d.get headword).length := by
      rw [hrank, Nat.mod_eq_of_lt hfew]
      exact hfilled.ranksBelow headword
    refine ⟨hbelow, fun word tag prev next hword hex => ?_⟩
    obtain ⟨e, he, htag, hu⟩ := hex
    rw [d.lookup_add target tag prev next hword, if_pos]
    exact ⟨e, he, hu, .inr ⟨htag, UInt32.le_of_lt (hbelow e he)⟩⟩

/-- A dictionary with one entry of a high rank. -/
def lateDictionary : Dictionary :=
  (empty .default).insert "casa" ((Entry.plain "house").withRank 5)

/-- An entry that is added to it comes before the other one, and is taken for the word. -/
theorem add_ranked_first :
    (lateDictionary.add "casa" "home").get "casa" =
        [(Entry.plain "house").withRank 5, (Entry.plain "home").withRank 1] ∧
      lateDictionary.lookup "casa" "n" none none = some ((Entry.plain "house").withRank 5) ∧
      (lateDictionary.add "casa" "home").lookup "casa" "n" none none =
        some ((Entry.plain "home").withRank 1) := by
  decide

/-- A dictionary with an entry for nouns and an added entry. -/
def twoHouses : Dictionary :=
  Dictionary.add ((empty .default).insert "casa" ((Entry.plain "household").withTag (.stem "n")))
    "Casa" "house"

/-- A second added entry is ranked behind both, and a verb gets the first one. -/
theorem add_ranked_last_twoHouses :
    ∃ new : Entry, (twoHouses.add "CASA" "home").get "CASA" = twoHouses.get "CASA" ++ [new] ∧
      (∀ e ∈ twoHouses.get "CASA", e.rank < new.rank) ∧
      (twoHouses.add "CASA" "home").lookup "casa" "v" none none =
        some ((Entry.plain "house").withRank 1) := by
  have hfilled : twoHouses.Filled := .add _ _ (.insert _ (.empty _) (by decide))
  have hget : twoHouses.get "CASA" = [(Entry.plain "household").withTag (.stem "n"),
      (Entry.plain "house").withRank 1] := by
    decide
  obtain ⟨new, -, -, -, -, hnew, -, -, hlast⟩ := add_ranked_last twoHouses "CASA" "home"
  obtain ⟨hbelow, htaken⟩ := hlast hfilled (by rw [hget]; decide)
  refine ⟨new, hnew "CASA" rfl, hbelow, ?_⟩
  rw [htaken "casa" "v" none none (by decide)
    ⟨(Entry.plain "house").withRank 1, by rw [hget]; decide, rfl, rfl⟩]
  decide

end Dictionary

end ShallowTransfer
