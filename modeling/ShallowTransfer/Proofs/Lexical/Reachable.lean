import ShallowTransfer.Json.Stages
import ShallowTransfer.Json.Text
import ShallowTransfer.Proofs.Lexical.Preference
import ShallowTransfer.Proofs.Reading
import ShallowTransfer.Proofs.Text.LowerCase
import ShallowTransfer.Wire.Stages

/-!
Entries that words reach. A word is looked up in lower case, and new entries are stored that way; so
in a dictionary that programs fill, every stored lemma finds its entries. A dictionary that is loaded
stores its lemmas as they are written. Those in lower case find their entries as well; the others
are dead, and no word finds what is stored for them (`stored_reachable`).
-/

namespace ShallowTransfer

namespace Dictionary

variable {d : Dictionary}

/-! ### How dictionaries are made -/

/-- The dictionaries that are loaded: read from a JSON text or from bytes. -/
def Loaded (d : Dictionary) : Prop :=
  (∃ text, Json.readText JsonForm.read text = .ok d) ∨ ∃ bytes, WireForm.decode bytes = .ok d

/-- The dictionaries that programs make, from given ones or from nothing. -/
inductive Grown (Given : Dictionary → Prop) : Dictionary → Prop
  | given {d : Dictionary} : Given d → Grown Given d
  | empty (options : DictionaryOptions) : Grown Given (empty options)
  | ofPairs (pairs : List (String × String)) : Grown Given (ofPairs pairs)
  | parse {text path : String} {options : DictionaryOptions} {d : Dictionary} :
      Build.parseDictionary text path options = .ok d → Grown Given d
  | withOptions {d : Dictionary} (options : DictionaryOptions) :
      Grown Given d → Grown Given (d.withOptions options)
  | insert {d : Dictionary} (headword : String) (e : Entry) :
      Grown Given d → Grown Given (d.insert headword e)
  | add {d : Dictionary} (headword target : String) :
      Grown Given d → Grown Given (d.add headword target)

/-- What holds of no lemmas and of those of the given dictionaries, and is kept where the value of a
key in lower case changes, holds of the lemmas of all dictionaries that are made. -/
theorem Grown.invariant {Given : Dictionary → Prop} {P : OrderedMap String (List Entry) → Prop}
    (hgiven : ∀ d, Given d → P d.entries) (hempty : P OrderedMap.empty)
    (halter : ∀ m headword f, P m → P (m.alter (Text.lowercase headword) f))
    (h : d.Grown Given) : P d.entries := by
  have hinsert : ∀ (d : Dictionary) headword e, P d.entries → P (d.insert headword e).entries :=
    fun d headword _ hd => halter d.entries headword _ hd
  induction h with
  | given h => exact hgiven _ h
  | empty _ => exact hempty
  | ofPairs pairs =>
    exact List.foldlRecOn (motive := fun d => P d.entries) (b := Dictionary.empty .default) pairs
      _ hempty fun d hd p _ => hinsert d p.1 _ hd
  | parse h =>
    refine parseDictionary_induction (P := fun d => P d.entries) h hempty fun _ d r _ hd => ?_
    exact List.foldlRecOn (motive := fun d => P d.entries) r.additions _ hd
      fun d hd a _ => hinsert d a.1 a.2 hd
  | withOptions _ _ ih => exact ih
  | insert headword e _ ih => exact hinsert _ headword e ih
  | add headword _ _ ih => exact hinsert _ headword _ ih

/-! ### Stored lemmas -/

theorem Loaded.nodup_keys (h : d.Loaded) : d.entries.keys.Nodup := by
  rcases h with ⟨text, h⟩ | ⟨bytes, h⟩
  · obtain ⟨j, hread⟩ := Json.exists_of_readText h
    obtain ⟨f, -, hfields⟩ := bind_eq_ok_iff.mp hread
    obtain ⟨g, options, hg, -, rfl⟩ :=
      Json.Found.value_apply_eq_some_iff.mp (Json.Fields.value_of_finish hfields)
    obtain ⟨make, entries, hmake, hentries, rfl⟩ := Json.Found.value_apply_eq_some_iff.mp hg
    cases hmake
    obtain ⟨j', hread'⟩ := Json.Fields.exists_of_required hentries
    exact Json.nodup_keys_of_readMap hread'
  · obtain ⟨rest, hread⟩ := WireForm.exists_of_decode h
    obtain ⟨entries, more, hentries, hread⟩ := WireReader.bind_eq_ok_iff.mp hread
    obtain ⟨options, more', -, hread⟩ := WireReader.bind_eq_ok_iff.mp hread
    cases hread
    exact WireForm.nodup_keys_of_read hentries

/-- No lemma is stored twice where none is in what is given. -/
theorem Grown.nodup_keys {Given : Dictionary → Prop}
    (hgiven : ∀ d, Given d → d.entries.keys.Nodup) (h : d.Grown Given) : d.entries.keys.Nodup :=
  h.invariant (P := fun m => m.keys.Nodup) hgiven List.nodup_nil
    fun _ _ f hm => OrderedMap.nodup_keys_alter hm _ f

/-- Without loading, all lemmas are stored in lower case. -/
theorem Grown.lowercase_of_mem_keys (h : d.Grown fun _ => False) :
    ∀ k ∈ d.entries.keys, Text.lowercase k = k := by
  refine h.invariant (P := fun m => ∀ k ∈ m.keys, Text.lowercase k = k) (fun _ hd => hd.elim)
    (fun _ hk => nomatch hk) fun m headword f hm k hk => ?_
  rcases OrderedMap.mem_keys_alter.mp hk with hk | rfl
  · exact hm k hk
  · exact Text.lowercase_lowercase headword

theorem get_eq_of_mem (hnodup : d.entries.keys.Nodup) {k : String} {es : List Entry}
    (hmem : (k, es) ∈ d.entries.entries) (hlower : Text.lowercase k = k) : d.get k = es := by
  rw [get, hlower, (OrderedMap.mem_entries_iff hnodup).mp hmem, Option.getD_some]

/-- The dictionary without what is stored for a lemma. -/
def without (d : Dictionary) (k : String) : Dictionary :=
  { d with entries := ⟨d.entries.entries.filter fun e => e.1 ≠ k⟩ }

/-- No word finds what is stored for a lemma that is not in lower case. -/
theorem get_without {k : String} (h : Text.lowercase k ≠ k) (d : Dictionary) (word : String) :
    (d.without k).get word = d.get word := by
  have hne : Text.lowercase word ≠ k := by
    rintro rfl
    exact h (Text.lowercase_lowercase word)
  rw [get, get]
  exact congrArg (Option.getD · []) (OrderedMap.find_filter_ne hne d.entries.entries)

/-- In a dictionary that programs fill from nothing every stored lemma is in lower case and finds its
entries. In one that is loaded, and in what programs make of it, the lemmas that are stored in lower
case find their entries; what is stored for another one is found by no word. -/
theorem stored_reachable (d : Dictionary) :
    ((d.Grown fun _ => False) → ∀ k es, (k, es) ∈ d.entries.entries →
      Text.lowercase k = k ∧ d.get k = es) ∧
    (d.Grown Loaded → ∀ k es, (k, es) ∈ d.entries.entries →
      (Text.lowercase k = k → d.get k = es) ∧
      (Text.lowercase k ≠ k → ∀ word, d.get word = (d.without k).get word)) := by
  constructor
  · intro h k es hmem
    have hlower := h.lowercase_of_mem_keys k (List.mem_map.mpr ⟨_, hmem, rfl⟩)
    exact ⟨hlower, get_eq_of_mem (h.nodup_keys fun _ hd => hd.elim) hmem hlower⟩
  · intro h k es hmem
    exact ⟨get_eq_of_mem (h.nodup_keys fun _ hd => hd.nodup_keys) hmem,
      fun hne word => (get_without hne d word).symm⟩

/-- A dictionary with a lemma in lower case and one with a capital letter. -/
def mixedDictionary : Dictionary :=
  ⟨⟨[("Casa", [.plain "house"]), ("perro", [.plain "dog"])]⟩, .default⟩

theorem decode_mixedDictionary :
    WireForm.decode (WireForm.write mixedDictionary) = .ok mixedDictionary := by
  decide

/-- A text and the bytes of this dictionary are read without a fault, and no lookup finds the entry of
the lemma with a capital letter. -/
theorem read_mixedDictionary :
    Json.readText JsonForm.read ("\x7b\"entries\":\x7b\"Casa\":[\x7b\"target\":\"house\"\x7d]," ++
        "\"perro\":[\x7b\"target\":\"dog\"\x7d]\x7d,\"options\":\x7b\x7d\x7d") =
        .ok mixedDictionary ∧
      WireForm.decode (WireForm.write mixedDictionary) = .ok mixedDictionary ∧
      ("Casa", [.plain "house"]) ∈ mixedDictionary.entries.entries ∧
      mixedDictionary.get "Casa" = [] :=
  ⟨by decide +kernel, decode_mixedDictionary, by decide, by decide⟩

/-- The lemma in lower case finds its entry when the dictionary is loaded, as all lemmas do in a
dictionary that is made of pairs. -/
theorem stored_reachable_mixedDictionary :
    mixedDictionary.Grown Loaded ∧ mixedDictionary.get "perro" = [.plain "dog"] ∧
      (∀ word, mixedDictionary.get word = (mixedDictionary.without "Casa").get word) ∧
      ((ofPairs [("Casa", "house")]).Grown fun _ => False) ∧
      (ofPairs [("Casa", "house")]).get "casa" = [.plain "house"] := by
  have hgrown : mixedDictionary.Grown Loaded := .given (.inr ⟨_, decode_mixedDictionary⟩)
  have hpairs : (ofPairs [("Casa", "house")]).Grown fun _ => False := .ofPairs _
  have hstored := (stored_reachable mixedDictionary).2 hgrown
  exact ⟨hgrown, (hstored "perro" _ (by decide)).1 (by decide),
    (hstored "Casa" [.plain "house"] (by decide)).2 (by decide), hpairs,
    ((stored_reachable _).1 hpairs "casa" [.plain "house"] (by decide)).2⟩

end Dictionary

end ShallowTransfer
