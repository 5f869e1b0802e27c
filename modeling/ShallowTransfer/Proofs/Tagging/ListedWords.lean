import Mathlib.Order.Bounds.Basic
import ShallowTransfer.Proofs.Tagging.LearnedRules
import ShallowTransfer.Proofs.Tagging.SentenceOrder

/-!
The lexicon of a list of words with tags. Its words are written in ascending order, one tag number
after another, so a word that is listed more often is written again, and keeps its place and the last
of its numbers, which is the greatest one (`get?_ofList_iff`). So only the tags that are listed for
each word count, and not the order of the list (`ofEntries_canonical`).
-/

namespace ShallowTransfer

namespace Lexicon

/-! ### Writing in ascending order -/

section Sorted

variable {entries : List (String × TagId)}

/-- Entries that are written in ascending order have ascending words. -/
theorem pairwise_keys_ofList (h : entries.Pairwise fun a b => entryLe a b = true) :
    (OrderedMap.ofList entries).keys.Pairwise fun v w => textBefore v w = true := by
  induction entries using List.reverseRecOn with
  | nil => exact .nil
  | append_singleton entries e ih =>
    obtain ⟨hentries, -, hlast⟩ := List.pairwise_append.mp h
    rw [OrderedMap.ofList_concat, OrderedMap.insert, OrderedMap.keys_alter]
    split
    · exact ih hentries
    · next hnew =>
      refine List.pairwise_append.mpr ⟨ih hentries, List.pairwise_singleton _ _, ?_⟩
      intro word hword last hmem
      rw [List.mem_singleton.mp hmem]
      obtain ⟨e', he', rfl⟩ := List.mem_map.mp (OrderedMap.mem_keys_ofList.mp hword)
      rcases entryLe_iff.mp (hlast e' he' e (List.mem_singleton_self e)) with hbefore | ⟨heq, -⟩
      · exact hbefore
      · exact absurd (heq ▸ hword) hnew

/-- Of the numbers that are written for a word in ascending order the greatest one counts. -/
theorem get?_ofList_iff (h : entries.Pairwise fun a b => entryLe a b = true) {word : String}
    {id : TagId} : (OrderedMap.ofList entries).get? word = some id ↔
      IsGreatest {i | (word, i) ∈ entries} id := by
  induction entries using List.reverseRecOn with
  | nil => exact iff_of_false (fun h => by cases h) fun h => by cases h.1
  | append_singleton entries e ih =>
    obtain ⟨hentries, -, hlast⟩ := List.pairwise_append.mp h
    rw [OrderedMap.ofList_concat, OrderedMap.get?_insert]
    split
    · next hword =>
      subst hword
      have hgreatest : IsGreatest {i | (e.1, i) ∈ entries ++ [e]} e.2 := by
        refine ⟨by simp, fun i hi => ?_⟩
        rcases List.mem_append.mp hi with hmem | hmem
        · rcases entryLe_iff.mp (hlast _ hmem e (List.mem_singleton_self e)) with hbefore | ⟨-, hle⟩
          · simp [textBefore_irrefl] at hbefore
          · exact hle
        · rw [← List.mem_singleton.mp hmem]
          exact UInt16.le_refl _
      rw [Option.some_inj]
      refine ⟨fun heq => heq ▸ hgreatest, fun hid => ?_⟩
      exact UInt16.le_antisymm (hid.2 hgreatest.1) (hgreatest.2 hid.1)
    · next hword =>
      have hsame : {i | (word, i) ∈ entries ++ [e]} = {i | (word, i) ∈ entries} := by
        ext i
        have hne : (word, i) ≠ e := fun heq => hword (congrArg Prod.fst heq).symm
        simp [hne]
      rw [ih hentries, hsame]

end Sorted

/-! ### Listed words -/

variable {tagSet : TagSet} {entries : List (String × Tag)}

/-- The numbers of the tags that are listed for a word. -/
def listedIds (tagSet : TagSet) (entries : List (String × Tag)) (word : String) : Set TagId :=
  {id | ∃ tag, (word, tag) ∈ entries ∧ tagSet.id? tag = some id}

/-- The resolved entries of a word have the numbers of its listed tags. -/
theorem mem_numbered_iff {numbered : List (String × TagId)}
    (h : entries.mapM (resolve tagSet) = .ok numbered) {word : String} {id : TagId} :
    (word, id) ∈ numbered ↔ id ∈ listedIds tagSet entries word := by
  have hall := mapM_eq_ok_iff.mp h
  constructor
  · intro hmem
    obtain ⟨entry, hentry, hres⟩ := exists_of_mem_forall₂ hall hmem
    have hword : word = entry.1 := fst_of_resolve hres
    exact ⟨entry.2, hword ▸ hentry, resolve_eq_ok hres⟩
  · rintro ⟨tag, hentry, hid⟩
    obtain ⟨e, he, hres⟩ := exists_of_mem_forall₂ hall.flip hentry
    have heid : some id = some e.2 := hid.symm.trans (resolve_eq_ok hres)
    have hword : e = (word, id) := Prod.ext (fst_of_resolve hres) (Option.some_inj.mp heid).symm
    exact hword ▸ he

theorem pairwise_mergeSort (numbered : List (String × TagId)) :
    (numbered.mergeSort entryLe).Pairwise fun a b => entryLe a b = true :=
  List.pairwise_mergeSort entryLe_trans entryLe_total numbered

section Numbered

variable {numbered : List (String × TagId)}

/-- The words of the lexicon are those that are listed. -/
theorem mem_keys_sorted_iff (h : entries.mapM (resolve tagSet) = .ok numbered) {word : String} :
    word ∈ (OrderedMap.ofList (numbered.mergeSort entryLe)).keys ↔
      word ∈ entries.map Prod.fst := by
  have hperm := (List.mergeSort_perm numbered entryLe).map Prod.fst
  rw [OrderedMap.mem_keys_ofList, hperm.mem_iff, map_fst_of_mapM_resolve h]

/-- A word of the lexicon has the greatest of the numbers of its listed tags. -/
theorem get?_sorted_iff (h : entries.mapM (resolve tagSet) = .ok numbered) {word : String}
    {id : TagId} : (OrderedMap.ofList (numbered.mergeSort entryLe)).get? word = some id ↔
      IsGreatest (listedIds tagSet entries word) id := by
  have hids : {i | (word, i) ∈ numbered.mergeSort entryLe} = listedIds tagSet entries word := by
    ext i
    exact (List.mergeSort_perm numbered entryLe).mem_iff.trans (mem_numbered_iff h)
  rw [get?_ofList_iff (pairwise_mergeSort numbered), hids]

end Numbered

/-- Entries in another order make the same lexicon. Its words ascend, are those that are listed, and
each of them is there once; and a word has the greatest of the numbers of its listed tags. So it is
looked up with that number, in whatever order the entries are listed. -/
theorem ofEntries_canonical (options : LexiconOptions)
    (h : ∀ entry ∈ entries, entry.2 ∈ tagSet.names) :
    ∃ l, (∀ entries', entries'.Perm entries → ofEntries tagSet entries' options = .ok l) ∧
      l.tagSet = tagSet ∧ l.options = options ∧
      (l.words.keys.Pairwise fun v w => textBefore v w = true) ∧
      (∀ word, l.words.keys.count word = if word ∈ entries.map Prod.fst then 1 else 0) ∧
      (∀ word id, l.words.get? word = some id ↔ IsGreatest (listedIds tagSet entries word) id) ∧
      ∀ word ∈ entries.map Prod.fst, ∃ id, IsGreatest (listedIds tagSet entries word) id ∧
        l.lookup word = (id, .lexicon) := by
  obtain ⟨l, hok, -⟩ := exists_ofEntries h options
  obtain ⟨numbered, hnumbered, rfl⟩ := ofEntries_eq_ok hok
  refine ⟨_, fun entries' hperm => ofEntries_perm hperm.symm hok, rfl, rfl,
    pairwise_keys_ofList (pairwise_mergeSort numbered), fun word => ?_,
    fun word id => get?_sorted_iff hnumbered, fun word hword => ?_⟩
  · have hcount := (OrderedMap.nodup_keys_ofList (numbered.mergeSort entryLe)).count (a := word)
    exact hcount.trans (if_congr (mem_keys_sorted_iff hnumbered) rfl rfl)
  · have hkey := OrderedMap.mem_keys_iff.mp ((mem_keys_sorted_iff hnumbered).mpr hword)
    obtain ⟨id, hid⟩ := Option.isSome_iff_exists.mp hkey
    refine ⟨id, (get?_sorted_iff hnumbered).mp hid, ?_⟩
    rw [lookup, hid]

/-- A noun, and a word that is listed as a verb and behind it as a noun. -/
def listedTwice : List (String × Tag) := [("canto", "v"), ("casa", "n"), ("canto", "n")]

/-- The verb counts, from whichever side the entries are read, as its number is the greater one. -/
theorem ofEntries_canonical_listedTwice :
    (∀ entry ∈ listedTwice, entry.2 ∈ (⟨["UNK", "n", "v"]⟩ : TagSet).names) ∧
      ∃ l, ofEntries ⟨["UNK", "n", "v"]⟩ listedTwice .default = .ok l ∧
        ofEntries ⟨["UNK", "n", "v"]⟩ listedTwice.reverse .default = .ok l ∧
        l.words.keys.count "canto" = 1 ∧ l.words.get? "canto" = some 2 := by
  have hknown : ∀ entry ∈ listedTwice, entry.2 ∈ (⟨["UNK", "n", "v"]⟩ : TagSet).names := by
    decide
  obtain ⟨l, hok, -, -, -, hcount, hget, -⟩ := ofEntries_canonical .default hknown
  have hverb : (2 : TagId) ∈ listedIds ⟨["UNK", "n", "v"]⟩ listedTwice "canto" :=
    ⟨"v", by decide, by decide⟩
  refine ⟨hknown, l, hok _ (.refl _), hok _ (List.reverse_perm _), hcount "canto",
    (hget "canto" 2).mpr ⟨hverb, ?_⟩⟩
  rintro id ⟨tag, hmem, hid⟩
  have htag : tag = "v" ∨ tag = "n" := by simpa [listedTwice] using hmem
  rcases htag with rfl | rfl
  · rw [← Option.some_inj.mp hid]
    decide
  · rw [← Option.some_inj.mp hid]
    decide

end Lexicon

end ShallowTransfer
