import ShallowTransfer.Proofs.Lexical.PassedThrough

/-!
The capital of the sentence start. A word that began the sentence with a capital of its own is
translated as if it was written in lower case (`translateToken_lowered`), and all other words
do not see how it is written: they are translated by their own letters and by the tags and the
positions around them. So writing it in lower case changes nothing in the target language but the
capital of the word that comes first there (`capital_moves`).
-/

namespace ShallowTransfer

/-! ### A word in lower case -/

/-- The token with its word in lower case. -/
def TaggedToken.lowered (t : TaggedToken) : TaggedToken :=
  { t with token := { t.token with text := Text.lowercase t.text } }

@[simp]
theorem TaggedToken.text_lowered (t : TaggedToken) : t.lowered.text = Text.lowercase t.text := rfl

@[simp]
theorem TaggedToken.position_lowered (t : TaggedToken) : t.lowered.position = t.position := rfl

@[simp]
theorem TaggedToken.tag_lowered (t : TaggedToken) : t.lowered.tag = t.tag := rfl

/-- The token with its word in lower case, if it is the given one. -/
def TaggedToken.lowerIf (f t : TaggedToken) : TaggedToken :=
  if t = f then t.lowered else t

/-- The tree with the word of a token in lower case. -/
def ShallowTree.lowerWord (tree : ShallowTree) (f : TaggedToken) : ShallowTree :=
  ⟨tree.chunks.map fun c => { c with tokens := c.tokens.map f.lowerIf }⟩

theorem TaggedToken.position_lowerIf (f t : TaggedToken) : (f.lowerIf t).position = t.position := by
  unfold lowerIf
  split <;> simp

theorem TaggedToken.tag_lowerIf (f t : TaggedToken) : (f.lowerIf t).tag = t.tag := by
  unfold lowerIf
  split <;> simp

theorem ShallowTree.tokens_lowerWord (tree : ShallowTree) (f : TaggedToken) :
    (tree.lowerWord f).tokens = tree.tokens.map f.lowerIf := by
  simp [tokens, lowerWord, List.flatMap_map, List.map_flatMap]

namespace Dictionary

/-! ### What the other words see -/

variable {g : TaggedToken → TaggedToken}

theorem tagBefore_map (hg : ∀ t, (g t).tag = t.tag) (prev : Option Tag) (tokens : List TaggedToken)
    (i : Nat) : tagBefore prev (tokens.map g) i = tagBefore prev tokens i := by
  cases i <;> simp [tagBefore, Function.comp_def, hg]

theorem tagBehind_map (hg : ∀ t, (g t).tag = t.tag) (tokens : List TaggedToken) (i : Nat) :
    tagBehind (tokens.map g) i = tagBehind tokens i := by
  simp [tagBehind, Function.comp_def, hg]

/-! ### The token that began the sentence -/

/-- A token of a sentence has a position of its own, before the positions of all others. -/
structure Leads (tokens : List TaggedToken) (f : TaggedToken) : Prop where
  mem : f ∈ tokens
  first : ∀ t ∈ tokens, f.position ≤ t.position
  unique : ∀ t ∈ tokens, t.position = f.position → t = f

namespace Leads

variable {tokens : List TaggedToken} {f : TaggedToken}

theorem firstPosition?_eq_some (h : Leads tokens f) :
    firstPosition? tokens = some f.position :=
  firstPosition?_eq_some_iff.mpr ⟨⟨f, h.mem, rfl⟩, h.first⟩

/-- The token tells whether the first target word is capitalized. -/
theorem capitalizes_iff (h : Leads tokens f) {d : Dictionary} (hcase : d.options.preserveCase = true) :
    d.capitalizes tokens = true ↔ Text.isTitleCase f.text = true := by
  rw [capitalizes, hcase, Bool.true_and, h.firstPosition?_eq_some, startsCapitalized]
  split
  · next t hfind =>
    have hposition := List.find?_some hfind
    rw [decide_eq_true_eq, Option.some_inj] at hposition
    rw [h.unique t (List.mem_of_find?_eq_some hfind) hposition.symm]
  · next hnone =>
    have hnot := List.find?_eq_none.mp hnone f h.mem
    simp at hnot

/-- In lower case the token still comes before all others. -/
theorem lowered (h : Leads tokens f) : Leads (tokens.map f.lowerIf) f.lowered where
  mem := List.mem_map.mpr ⟨f, h.mem, if_pos rfl⟩
  first := by
    intro t' ht'
    obtain ⟨t, ht, rfl⟩ := List.mem_map.mp ht'
    rw [f.position_lowerIf, f.position_lowered]
    exact h.first t ht
  unique := by
    intro t' ht' heq
    obtain ⟨t, ht, rfl⟩ := List.mem_map.mp ht'
    rw [f.position_lowerIf, f.position_lowered] at heq
    rw [h.unique t ht heq, TaggedToken.lowerIf, if_pos rfl]

end Leads

/-! ### What the word itself turns into -/

/-- At the start of a sentence only a word in capitals throughout hands on its case. -/
theorem cased_of_sentenceInitial (d : Dictionary) (target : String) {source : String}
    (h : source.toList.length = 1 ∨ Text.isUppercase source = false) :
    d.cased target source true = target := by
  unfold cased
  rcases h with hsingle | hlower
  · simp [hsingle, Nat.blt]
  · simp [hlower]

/-- The word that begins the sentence is translated as if it was written in lower case. -/
theorem translateToken_lowered {d : Dictionary} {prev next : Option Tag} {f : TaggedToken}
    (husable : ∃ e ∈ d.get f.text, e.usable prev next = true)
    (hword : f.text.toList.length = 1 ∨ Text.isUppercase f.text = false)
    (hlowered : Text.isUppercase (Text.lowercase f.text) = false) :
    (d.translateToken (some f.position) prev next f.lowered).text =
        (d.translateToken (some f.position) prev next f).text ∧
      (d.translateToken (some f.position) prev next f.lowered).status =
        (d.translateToken (some f.position) prev next f).status := by
  have hlookup : d.lookup (Text.lowercase f.text) f.tag prev next =
      d.lookup f.text f.tag prev next := by
    rw [lookup, lookup, d.get_congr (Text.lowercase_lowercase f.text)]
  obtain ⟨e, he⟩ : ∃ e, d.lookup f.text f.tag prev next = some e := by
    refine Option.ne_none_iff_exists'.mp fun hnone => ?_
    obtain ⟨e, he, hu⟩ := husable
    rw [lookup_eq_none_iff.mp hnone e he] at hu
    cases hu
  have hcased := d.cased_of_sentenceInitial e.target hword
  have hcased' := d.cased_of_sentenceInitial e.target (.inr hlowered)
  simp [translateToken, hlookup, he, hcased, hcased']

/-! ### Both sentences -/

/-- With the word that began the sentence in lower case no target word is capitalized for it, and all
tokens are translated in their places. -/
theorem getElem?_transfer_lowerWord {d : Dictionary} {tree : ShallowTree} {f : TaggedToken}
    (hleads : Leads tree.tokens f) (hcase : d.options.preserveCase = true)
    (hlower : Text.isTitleCase (Text.lowercase f.text) = false) (j : Nat) :
    (d.transfer (tree.lowerWord f))[j]? = tree.tokens[j]?.map fun t =>
      d.translateToken (some f.position) (tagBefore none tree.tokens j) (tagBehind tree.tokens j)
        (f.lowerIf t) := by
  have hcap : ¬ d.capitalizes (tree.tokens.map f.lowerIf) = true := by
    rw [hleads.lowered.capitalizes_iff hcase, f.text_lowered, hlower]
    exact Bool.false_ne_true
  rw [getElem?_transfer, tree.tokens_lowerWord, hleads.lowered.firstPosition?_eq_some,
    tagBefore_map f.tag_lowerIf, tagBehind_map f.tag_lowerIf]
  simp [hcap, Function.comp_def]

/-- Writing the word that began a sentence with a capital of its own in lower case takes the capital
off the first target word and changes nothing else, wherever the word has been moved to. -/
theorem capital_moves {d : Dictionary} {tree : ShallowTree} {f : TaggedToken} {i : Nat}
    (hcase : d.options.preserveCase = true) (hpositions : tree.positions.Nodup)
    (hplace : tree.tokens[i]? = some f) (hfirst : ∀ t ∈ tree.tokens, f.position ≤ t.position)
    (husable : ∃ e ∈ d.get f.text,
      e.usable (tagBefore none tree.tokens i) (tagBehind tree.tokens i) = true)
    (htitle : Text.isTitleCase f.text = true)
    (hlower : f.text.toList.length = 1 ∨ ∃ c ∈ f.text.toList, Text.isLower c = true)
    (hchanges : (Text.lowercase f.text).toList.head? ≠ f.text.toList.head?) :
    (d.transfer tree).map TargetWord.status =
        (d.transfer (tree.lowerWord f)).map TargetWord.status ∧
      ∀ j, ((d.transfer tree)[j]?).map TargetWord.text =
        ((d.transfer (tree.lowerWord f))[j]?).map fun w =>
          if j = 0 then Text.capitalize w.text else w.text := by
  have hleads : Leads tree.tokens f := by
    have hmem := List.mem_of_getElem? hplace
    exact ⟨hmem, hfirst, fun t ht => List.inj_on_of_nodup_map hpositions ht hmem⟩
  have hnone := Text.not_isUpper_of_mem_lowercase htitle hchanges
  have hplain := getElem?_transfer_lowerWord hleads hcase (Text.isTitleCase_eq_false hnone)
  have hcap : d.capitalizes tree.tokens = true := (hleads.capitalizes_iff hcase).mpr htitle
  -- all tokens are translated in the same way: only one of them is written differently
  have hwords : ∀ j t, tree.tokens[j]? = some t →
      let translated := d.translateToken (some f.position) (tagBefore none tree.tokens j)
        (tagBehind tree.tokens j)
      (translated (f.lowerIf t)).text = (translated t).text ∧
        (translated (f.lowerIf t)).status = (translated t).status := by
    intro j t ht
    by_cases heq : t = f
    · have hj : j = i := by
        obtain ⟨hlt, -⟩ := List.getElem?_eq_some_iff.mp ht
        rw [heq, ← hplace] at ht
        exact (List.getElem?_inj hlt (List.Nodup.of_map _ hpositions)).mp ht
      rw [heq, TaggedToken.lowerIf, if_pos rfl, hj]
      exact translateToken_lowered husable
        (hlower.imp_right Text.isUppercase_eq_false_of_isLower) (Text.isUppercase_eq_false hnone)
    · rw [TaggedToken.lowerIf, if_neg heq]
      exact ⟨rfl, rfl⟩
  refine ⟨List.ext_getElem? fun j => ?_, fun j => ?_⟩
  · rw [List.getElem?_map, List.getElem?_map, getElem?_transfer, hleads.firstPosition?_eq_some,
      hplain]
    cases ht : tree.tokens[j]? with
    | none => rfl
    | some t =>
      have hstatus := (hwords j t ht).2
      simp only [Option.map_some, hstatus]
      split <;> rfl
  · rw [getElem?_transfer, hleads.firstPosition?_eq_some, hplain]
    cases ht : tree.tokens[j]? with
    | none => rfl
    | some t =>
      have htext := (hwords j t ht).1
      simp only [Option.map_some, htext, hcap, and_true]
      split <;> rfl

/-- A dictionary of a noun and an adjective. -/
def redHouses : Dictionary :=
  ofPairs [("casa", "house"), ("roja", "red")]

/-- The noun of the tree with the adjective in front. -/
def movedNoun : TaggedToken :=
  ⟨⟨"Casa", 0⟩, "n", .lexicon⟩

/-- The noun that began the sentence has been moved behind its adjective, and this gets its
capital. -/
theorem capital_moves_adjectiveFirst :
    (redHouses.transfer adjectiveFirst).map TargetWord.text = ["Red", "house"] ∧
      (redHouses.transfer (adjectiveFirst.lowerWord movedNoun)).map TargetWord.text =
        ["red", "house"] ∧
      ((redHouses.transfer adjectiveFirst)[0]?).map TargetWord.text =
        ((redHouses.transfer (adjectiveFirst.lowerWord movedNoun))[0]?).map fun w =>
          Text.capitalize w.text := by
  have husable : ∃ e ∈ redHouses.get movedNoun.text,
      e.usable (tagBefore none adjectiveFirst.tokens 1) (tagBehind adjectiveFirst.tokens 1) = true :=
    ⟨Entry.plain "house", by decide, rfl⟩
  have hplace : adjectiveFirst.tokens[1]? = some movedNoun := rfl
  obtain ⟨-, htexts⟩ := capital_moves (d := redHouses) rfl (by decide) hplace (by decide) husable
    (by decide) (.inr ⟨'a', by decide⟩) (by decide)
  exact ⟨by decide, by decide, htexts 0⟩

end Dictionary

end ShallowTransfer
