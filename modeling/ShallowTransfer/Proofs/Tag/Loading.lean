import Mathlib.Data.List.Range
import ShallowTransfer.Json.Tagging
import ShallowTransfer.Proofs.Tag.Names
import ShallowTransfer.Wire.Stages

/-!
Tag sets that are read. A list of names is numbered by index, and its numbers are taken modulo
65536. So of a long list the last 65536 names are kept, each under its index modulo 65536
(`layout_number`), and reading a list comes down to this as long as no name is repeated among those
that have a number at the time (`eq_number_of_ofNames`). A list is read faithfully exactly if it has
no more names than there are numbers (`read_faithfully_iff`): a longer one is not refused, and
the first names lose their numbers to the last ones (`ofNames_manyNames`).
-/

namespace ShallowTransfer

namespace TagSet

/-! ### Numbers that are taken over -/

/-- The names that are left of those seen so far, when there are at least as many as numbers: the
last ones, each under its index modulo the count of numbers. -/
structure Layout (seen kept : List Tag) : Prop where
  length : kept.length = tagIdCount
  last : ∀ i, seen.length ≤ i + tagIdCount → i < seen.length →
    kept[i % tagIdCount]? = seen[i]?

/-- One more name takes over the number of the name 65536 places before it. -/
theorem Layout.assign {seen kept : List Tag} (h : Layout seen kept) (t : Tag) {k : Nat}
    (hk : seen.length = tagIdCount + k) : Layout (seen ++ [t]) (assign kept (t, k)) where
  length := (length_assign kept (t, k)).trans h.length
  last i hlast hi := by
    have hlength := h.length
    simp only [List.length_append, List.length_singleton, tagIdCount] at hlast hi hk hlength ⊢
    rw [TagSet.assign, tagIdCount]
    rcases Nat.lt_succ_iff_lt_or_eq.mp hi with hlt | heq
    · have hne : k % 65536 ≠ i % 65536 := by omega
      have hold := h.last i (by rw [tagIdCount]; omega) hlt
      rw [tagIdCount] at hold
      rw [List.getElem?_set_ne hne, hold, List.getElem?_append_left hlt]
    · have hplace : k % 65536 = i % 65536 := by omega
      have hfits : i % 65536 < kept.length := by omega
      rw [hplace, List.getElem?_set_self hfits, heq, List.getElem?_concat_length]

theorem Layout.foldl_assign (rest : List Tag) {seen kept : List Tag} {k : Nat}
    (h : Layout seen kept) (hk : seen.length = tagIdCount + k) :
    Layout (seen ++ rest) ((rest.zipIdx k).foldl TagSet.assign kept) := by
  induction rest generalizing seen kept k with
  | nil => rwa [List.append_nil]
  | cons t rest ih =>
    have hnext := ih (h.assign t hk) (k := k + 1) (by
      rw [List.length_append, List.length_singleton, hk, Nat.add_assoc])
    rwa [List.append_assoc, List.singleton_append] at hnext

/-- Numbering at least as many names as there are numbers keeps the last ones. -/
theorem layout_number {names : List Tag} (h : tagIdCount ≤ names.length) :
    Layout names (number names).names := by
  have hlength : (names.take tagIdCount).length = tagIdCount := by
    rw [List.length_take, Nat.min_eq_left h]
  have hstart : Layout (names.take tagIdCount) (names.take tagIdCount) := by
    refine ⟨hlength, fun i _ hi => ?_⟩
    rw [Nat.mod_eq_of_lt (hlength ▸ hi)]
  have hall := hstart.foldl_assign (names.drop tagIdCount) (k := 0) (by rw [hlength, Nat.add_zero])
  rwa [List.take_append_drop] at hall

/-- Names that all have their own number are numbered by index. -/
theorem number_of_length_le {names : List Tag} (h : names.length ≤ tagIdCount) :
    number names = ⟨names⟩ := by
  rw [number, List.drop_of_length_le h, List.take_of_length_le h, List.zipIdx_nil, List.foldl_nil]

/-- The names with a number are the last ones, as many as there are numbers. -/
theorem mem_number_iff {names : List Tag} {t : Tag} :
    t ∈ (number names).names ↔ t ∈ names.drop (names.length - tagIdCount) := by
  rcases Nat.le_total names.length tagIdCount with hle | hle
  · rw [number_of_length_le hle, Nat.sub_eq_zero_of_le hle, List.drop_zero]
  · have hlayout := layout_number hle
    have hlast (k : Nat) (hk : k < tagIdCount) :
        (number names).names[(names.length - tagIdCount + k) % tagIdCount]? =
          (names.drop (names.length - tagIdCount))[k]? := by
      rw [List.getElem?_drop]
      exact hlayout.last _ (by omega) (by omega)
    constructor
    · intro h
      obtain ⟨j, hj, rfl⟩ := List.getElem_of_mem h
      rw [hlayout.length] at hj
      -- the last index that has this number
      obtain ⟨k, hk, hplace⟩ :
          ∃ k < tagIdCount, (names.length - tagIdCount + k) % tagIdCount = j := by
        refine ⟨(j + tagIdCount - (names.length - tagIdCount) % tagIdCount) % tagIdCount, ?_⟩
        simp only [tagIdCount] at hj ⊢
        omega
      refine List.mem_of_getElem? (i := k) ?_
      rw [← hlast k hk, hplace, List.getElem?_eq_getElem]
    · intro h
      obtain ⟨k, hk, rfl⟩ := List.getElem_of_mem h
      have hlt : k < tagIdCount := by
        rw [List.length_drop] at hk
        omega
      exact List.mem_of_getElem? ((hlast k hlt).trans (List.getElem?_eq_getElem hk))

/-! ### Lists that are read -/

/-- Names that are given numbers one by one, each after a check, are numbered as without checks. -/
theorem eq_foldl_of_foldlM_assignNew : ∀ (entries : List (Tag × Nat)) {names numbered : List Tag},
    entries.foldlM assignNew names = .ok numbered → numbered = entries.foldl assign names
  | [], _, _, h => by cases h; rfl
  | e :: rest, names, numbered, h => by
    obtain ⟨next, hpass, h⟩ := bind_eq_ok_iff.mp (List.foldlM_cons.symm.trans h)
    rw [assignNew] at hpass
    split at hpass
    · cases hpass
    · cases hpass
      exact eq_foldl_of_foldlM_assignNew rest h

/-- The checks let different names pass. -/
theorem foldlM_assignNew_of_nodup : ∀ (entries : List (Tag × Nat)) (names : List Tag),
    (entries.map (·.1)).Nodup → (∀ e ∈ entries, e.1 ∉ names) →
      entries.foldlM assignNew names = .ok (entries.foldl assign names)
  | [], _, _, _ => rfl
  | e :: rest, names, hd, hnew => by
    rw [List.map_cons, List.nodup_cons] at hd
    have hpass : assignNew names e = .ok (assign names e) := by
      rw [assignNew, if_neg (by simpa using hnew e List.mem_cons_self)]
    rw [List.foldlM_cons, hpass]
    refine foldlM_assignNew_of_nodup rest _ hd.2 fun e' he' hm => ?_
    rcases mem_assign hm with hm | heq
    · exact hnew e' (List.mem_cons_of_mem _ he') hm
    · exact hd.1 (heq ▸ List.mem_map_of_mem he')

/-- A list that is read begins with a name that is not blank, and is numbered by index. -/
theorem eq_number_of_ofNames {names : List Tag} {s : TagSet} (h : ofNames names = .ok s) :
    Text.isBlankText (names.headD "") = false ∧ s = number names := by
  simp only [ofNames] at h
  split at h
  · cases h
  · next hblank =>
    split at h
    · cases h
    · obtain ⟨numbered, hnumbered, h⟩ := bind_eq_ok_iff.mp h
      cases h
      rw [eq_foldl_of_foldlM_assignNew _ hnumbered]
      exact ⟨by simpa using hblank, rfl⟩

/-- Different names are read, however many there are, unless the first one is blank. -/
theorem ofNames_of_nodup {names : List Tag} (hfirst : Text.isBlankText (names.headD "") = false)
    (hn : names.Nodup) : ofNames names = .ok (number names) := by
  have hsplit : (names.take tagIdCount ++ names.drop tagIdCount).Nodup := by
    rwa [List.take_append_drop]
  obtain ⟨htake, hdrop, hdisj⟩ := List.nodup_append.mp hsplit
  have hnone : duplicate? (names.take tagIdCount) = none := by
    rw [duplicate?_eq_firstRepeated]
    exact firstRepeated_eq_none _ _ htake fun _ _ => List.not_mem_nil
  have hrest := foldlM_assignNew_of_nodup (names.drop tagIdCount).zipIdx (names.take tagIdCount)
    (by simpa using hdrop) fun e he hm => hdisj _ hm _ (List.fst_mem_of_mem_zipIdx he) rfl
  rw [ofNames, hfirst, hnone]
  dsimp only
  rw [hrest]
  rfl

/-- Names that all have their own number are read exactly if they are different and the first one is
not blank. -/
theorem exists_ofNames_iff {names : List Tag} (hlength : names.length ≤ tagIdCount) :
    (∃ s, ofNames names = .ok s) ↔
      Text.isBlankText (names.headD "") = false ∧ names.Nodup := by
  constructor
  · rintro ⟨s, h⟩
    have hnames := names_of_ofNames hlength h
    exact ⟨(eq_number_of_ofNames h).1, hnames ▸ (numbered_of_ofNames h).nodup⟩
  · rintro ⟨hfirst, hn⟩
    exact ⟨_, ofNames_of_nodup hfirst hn⟩

/-- A tag set that has a list of names as it stands: each name has its index as its number and is
the name with this number, no other name has a number, the first name is that of the fallback tag,
there are as many tags as names, and the tag set lists and stores the names as they are. -/
structure Faithful (names : List Tag) (s : TagSet) : Prop where
  numbered : ∀ i (h : i < names.length), ∃ id : TagId, id.toNat = i ∧
    s.id? names[i] = some id ∧ s.name? id = some names[i]
  known : ∀ name, (∃ id, s.id? name = some id) ↔ name ∈ names
  fallback : names.head? = some s.fallbackName
  size : s.size = names.length
  toList : s.toList.map (fun e => (e.1, e.2.toNat)) = names.zipIdx
  json : JsonForm.write s = Json.object [("names", JsonForm.write names)]
  wire : WireForm.write s = WireForm.write names

/-- A tag has a number if and only if it is one of the names. -/
theorem exists_id?_iff {s : TagSet} {name : Tag} :
    (∃ id, s.id? name = some id) ↔ name ∈ s.names := by
  rw [← Option.isSome_iff_exists, id?, Option.isSome_map, List.isSome_idxOf?]

/-- A tag set has its own names as they stand. -/
theorem Numbered.faithful {s : TagSet} (h : s.Numbered) : s.Faithful s.names where
  numbered i hi := by
    have hid : (UInt16.ofNat i).toNat = i :=
      UInt16.toNat_ofNat_of_lt' (Nat.lt_of_lt_of_le hi h.size_le)
    have hname : s.name? (UInt16.ofNat i) = some s.names[i] := by
      rw [name?, hid, List.getElem?_eq_getElem hi]
    exact ⟨_, hid, id?_of_name? h hname, hname⟩
  known _ := exists_id?_iff
  fallback := by
    have hpos : 0 < s.names.length := List.length_pos_iff.mpr h.nonempty
    have hzero : s.name? TagSet.fallback = some s.names[0] := List.getElem?_eq_getElem hpos
    rw [fallbackName, hzero, Option.getD_some, List.head?_eq_getElem?,
      List.getElem?_eq_getElem hpos]
  size := rfl
  toList := by
    rw [TagSet.toList, List.map_map]
    refine (List.map_congr_left fun e he => ?_).trans (List.map_id _)
    have hlt := (List.mem_zipIdx' he).1
    exact Prod.ext rfl (UInt16.toNat_ofNat_of_lt' (Nat.lt_of_lt_of_le hlt h.size_le))
  json := rfl
  wire := rfl

/-- A list that is read is kept as it stands exactly if it has no more names than there are numbers.
Such a list is read exactly if its names are different and the first one is not blank; for a longer
list this is enough as well. -/
theorem read_faithfully_iff (names : List Tag) :
    (∀ s, ofNames names = .ok s → (s.Faithful names ↔ names.length ≤ tagIdCount)) ∧
      (names.length ≤ tagIdCount → ((∃ s, ofNames names = .ok s) ↔
        Text.isBlankText (names.headD "") = false ∧ names.Nodup)) := by
  refine ⟨fun s h => ⟨fun hfaithful => ?_, fun hlength => ?_⟩, exists_ofNames_iff⟩
  · rw [← hfaithful.size]
    exact (numbered_of_ofNames h).size_le
  · have hfaithful := (numbered_of_ofNames h).faithful
    rwa [names_of_ofNames hlength h] at hfaithful

/-- A list with an empty name and a padded one is kept as it stands. -/
theorem read_faithfully_padded :
    ofNames ["UNK", "", " n", "n"] = .ok ⟨["UNK", "", " n", "n"]⟩ ∧
      (⟨["UNK", "", " n", "n"]⟩ : TagSet).Faithful ["UNK", "", " n", "n"] := by
  obtain ⟨hfaithful, hread⟩ := read_faithfully_iff ["UNK", "", " n", "n"]
  have hlength : ["UNK", "", " n", "n"].length ≤ tagIdCount := by decide
  obtain ⟨s, hs⟩ := (hread hlength).mpr ⟨by decide, by decide⟩
  have hnames : s = ⟨["UNK", "", " n", "n"]⟩ := by
    rw [(eq_number_of_ofNames hs).2, number_of_length_le hlength]
  exact hnames ▸ ⟨hs, (hfaithful s hs).mpr hlength⟩

/-! ### More names than numbers -/

/-- The names of a single character, from U+10000 on. -/
def manyName (n : Nat) : Tag :=
  String.singleton (Char.ofNat (0x10000 + n))

/-- One more name than there are numbers. -/
def manyNames : List Tag :=
  (List.range (tagIdCount + 1)).map manyName

theorem manyName_injOn {m n : Nat} (hm : m ≤ tagIdCount) (hn : n ≤ tagIdCount)
    (h : manyName m = manyName n) : m = n := by
  have hcode {k : Nat} (hk : k ≤ tagIdCount) : (Char.ofNat (0x10000 + k)).toNat = 0x10000 + k := by
    rw [tagIdCount] at hk
    have hvalid : (0x10000 + k).isValidChar := .inr (by omega)
    rw [Char.ofNat, dif_pos hvalid]
    rfl
  have hchar := congrArg Char.toNat (String.singleton_inj.mp h)
  rw [hcode hm, hcode hn] at hchar
  exact Nat.add_left_cancel hchar

theorem nodup_manyNames : manyNames.Nodup := by
  refine List.nodup_range.map_on fun m hm n hn => ?_
  rw [List.mem_range, Nat.lt_succ_iff] at hm hn
  exact manyName_injOn hm hn

theorem length_manyNames : manyNames.length = tagIdCount + 1 := by
  rw [manyNames, List.length_map, List.length_range]

theorem cons_drop_manyNames : manyName 0 :: manyNames.drop 1 = manyNames := by
  rw [manyNames, List.range_succ_eq_map, List.map_cons, List.drop_one, List.tail_cons]

theorem getElem?_manyNames {n : Nat} (h : n ≤ tagIdCount) : manyNames[n]? = some (manyName n) := by
  rw [manyNames, List.getElem?_map, List.getElem?_range (Nat.lt_succ_of_le h), Option.map_some]

/-- This list is read, though its last name takes over the number of the first one: the first name
has no number then, the fallback tag is the last name, and there is a tag less than there are
names. -/
theorem ofNames_manyNames :
    ∃ s, ofNames manyNames = .ok s ∧ ¬ s.Faithful manyNames ∧ s.id? (manyName 0) = none ∧
      s.fallbackName = manyName tagIdCount ∧ s.size + 1 = manyNames.length := by
  have hfirst : manyNames.headD "" = manyName 0 := by
    rw [List.headD_eq_head?_getD, List.head?_eq_getElem?, getElem?_manyNames (Nat.zero_le _)]
    rfl
  have hread := ofNames_of_nodup (by rw [hfirst]; decide) nodup_manyNames
  have hlayout : Layout manyNames (number manyNames).names :=
    layout_number (by rw [length_manyNames]; exact Nat.le_succ _)
  have hsize : (number manyNames).size + 1 = manyNames.length := by
    rw [length_manyNames, size, hlayout.length]
  refine ⟨_, hread, fun hfaithful => ?_, ?_, ?_, hsize⟩
  · have hsame := hfaithful.size
    omega
  · have hlost : manyName 0 ∉ (number manyNames).names := by
      rw [mem_number_iff, length_manyNames, Nat.add_sub_cancel_left]
      exact (List.nodup_cons.mp (cons_drop_manyNames.symm ▸ nodup_manyNames)).1
    rw [id?, List.idxOf?_eq_none_iff.mpr hlost, Option.map_none]
  · have hlast := hlayout.last tagIdCount (by rw [length_manyNames]; decide)
      (by rw [length_manyNames]; exact Nat.lt_succ_self _)
    rw [Nat.mod_self, getElem?_manyNames (Nat.le_refl _)] at hlast
    have hname : (number manyNames).name? fallback = some (manyName tagIdCount) := hlast
    rw [fallbackName, hname, Option.getD_some]

end TagSet

end ShallowTransfer
