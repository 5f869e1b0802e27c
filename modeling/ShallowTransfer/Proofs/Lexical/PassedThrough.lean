import ShallowTransfer.Proofs.Lexical.Ranks
import ShallowTransfer.Proofs.Text.UpperCase

/-!
Words that are passed through. Every token of a tree gives one target word in its place
(`map_source_transfer`), looked up between the tags of its neighbours
(`getElem?_translateRow`). A word without a usable entry keeps its text, but for one place: where
the word that began the sentence with a capital does not come first any more, its capital moves on
to the word that does (`MovesCapital`), and this one may be a word that is passed through. A word
that stays in front has its capital already.
-/

namespace ShallowTransfer

namespace Dictionary

/-! ### Target words and their tokens -/

theorem source_translateToken (d : Dictionary) (first : Option Nat) (prev next : Option Tag)
    (t : TaggedToken) : (d.translateToken first prev next t).source = t := by
  unfold translateToken
  split <;> rfl

theorem map_source_translateRow (d : Dictionary) (first : Option Nat) (tokens : List TaggedToken) :
    ∀ prev, (d.translateRow first prev tokens).map TargetWord.source = tokens := by
  induction tokens with
  | nil => exact fun _ => rfl
  | cons t rest ih =>
    intro prev
    rw [translateRow, List.map_cons, source_translateToken, ih]

theorem map_source_capitalizeFirst (words : List TargetWord) :
    (capitalizeFirst words).map TargetWord.source = words.map TargetWord.source := by
  cases words <;> rfl

/-- The target words stand for the tokens of the tree one by one. -/
theorem map_source_transfer (d : Dictionary) (tree : ShallowTree) :
    (d.transfer tree).map TargetWord.source = tree.tokens := by
  simp only [transfer]
  split
  · rw [map_source_capitalizeFirst, map_source_translateRow]
  · rw [map_source_translateRow]

/-- The tag before an index, where `prev` stands before the first token. -/
def tagBefore (prev : Option Tag) (tokens : List TaggedToken) : Nat → Option Tag
  | 0 => prev
  | i + 1 => tokens[i]?.map TaggedToken.tag

/-- The tag behind an index. -/
def tagBehind (tokens : List TaggedToken) (i : Nat) : Option Tag :=
  tokens[i + 1]?.map TaggedToken.tag

/-- Every token is translated between the tags of its neighbours. -/
theorem getElem?_translateRow (d : Dictionary) (first : Option Nat) (tokens : List TaggedToken) :
    ∀ prev i, (d.translateRow first prev tokens)[i]? = tokens[i]?.map
      (d.translateToken first (tagBefore prev tokens i) (tagBehind tokens i)) := by
  induction tokens with
  | nil => exact fun _ _ => rfl
  | cons t rest ih =>
    intro prev i
    rw [translateRow]
    cases i with
    | zero => simp [tagBefore, tagBehind, List.head?_eq_getElem?]
    | succ i =>
      rw [List.getElem?_cons_succ, List.getElem?_cons_succ, ih]
      cases i <;> rfl

/-- A word is passed through where none of its entries is usable, and keeps its text then. -/
theorem translateToken_untranslated (d : Dictionary) (first : Option Nat) (prev next : Option Tag)
    (t : TaggedToken) :
    ((d.translateToken first prev next t).status = .untranslated ↔
        ∀ e ∈ d.get t.text, e.usable prev next = false) ∧
      ((d.translateToken first prev next t).status = .untranslated →
        (d.translateToken first prev next t).text = t.text) := by
  rw [← @lookup_eq_none_iff d t.text t.tag]
  unfold translateToken
  split
  · next hsome => simp [hsome]
  · next hlookup => simp [hlookup]

/-! ### The word that began the sentence -/

/-- A token between others began the sentence: it has the least position, and is the first one that
has. -/
structure Opens (before : List TaggedToken) (t : TaggedToken) (after : List TaggedToken) :
    Prop where
  before : ∀ u ∈ before, t.position < u.position
  after : ∀ u ∈ after, t.position ≤ u.position

theorem firstPosition?_eq_min? (tokens : List TaggedToken) :
    firstPosition? tokens = (tokens.map TaggedToken.position).min? := by
  cases tokens with
  | nil => rfl
  | cons t rest => rw [firstPosition?, List.map_cons, List.min?_cons', List.foldl_map]

/-- The first position is the least one that there is. -/
theorem firstPosition?_eq_some_iff {tokens : List TaggedToken} {n : Nat} :
    firstPosition? tokens = some n ↔
      (∃ t ∈ tokens, t.position = n) ∧ ∀ t ∈ tokens, n ≤ t.position := by
  rw [firstPosition?_eq_min?, List.min?_eq_some_iff, List.mem_map, List.forall_mem_map]

/-- A sentence started with a capital where the token that began it is title case. -/
theorem startsCapitalized_iff {tokens : List TaggedToken} :
    startsCapitalized (firstPosition? tokens) tokens = true ↔
      ∃ before t after, tokens = before ++ t :: after ∧ Opens before t after ∧
        Text.isTitleCase t.text = true := by
  constructor
  · intro h
    unfold startsCapitalized at h
    split at h
    · next t hfind =>
      obtain ⟨hfirst, before, after, rfl, hbefore⟩ := List.find?_eq_some_iff_append.mp hfind
      have hleast := (firstPosition?_eq_some_iff.mp (of_decide_eq_true hfirst)).2
      refine ⟨before, t, after, rfl, ⟨fun u hu => ?_, fun u hu => ?_⟩, h⟩
      · have hne := hbefore u hu
        rw [of_decide_eq_true hfirst] at hne
        have hle := hleast u (List.mem_append_left _ hu)
        have : t.position ≠ u.position := by simpa using hne
        omega
      · exact hleast u (List.mem_append_right _ (List.mem_cons_of_mem _ hu))
    · cases h
  · rintro ⟨before, t, after, rfl, hopens, htitle⟩
    have hfirst : firstPosition? (before ++ t :: after) = some t.position := by
      refine firstPosition?_eq_some_iff.mpr ⟨⟨t, by simp, rfl⟩, fun u hu => ?_⟩
      rcases List.mem_append.mp hu with hu | hu
      · exact Nat.le_of_lt (hopens.before u hu)
      · rcases List.mem_cons.mp hu with rfl | hu
        · exact Nat.le_refl _
        · exact hopens.after u hu
    have hfind : ((before ++ t :: after).find? fun u => some t.position = some u.position) =
        some t := by
      refine List.find?_eq_some_iff_append.mpr ⟨by simp, before, after, rfl, fun u hu => ?_⟩
      have := hopens.before u hu
      simp only [Option.some.injEq, Bool.not_eq_true', decide_eq_false_iff_not]
      omega
    rw [hfirst, startsCapitalized, hfind]
    exact htitle

/-- Whether the capital of a sentence moves on: the token that began the sentence is title case, and
other tokens have come before it. -/
def MovesCapital (d : Dictionary) (tokens : List TaggedToken) : Prop :=
  d.options.preserveCase = true ∧ ∃ before t after, tokens = before ++ t :: after ∧
    Opens before t after ∧ Text.isTitleCase t.text = true ∧ before ≠ []

/-- Whether the first target word is capitalized. -/
def capitalizes (d : Dictionary) (tokens : List TaggedToken) : Bool :=
  d.options.preserveCase && startsCapitalized (firstPosition? tokens) tokens

theorem transfer_eq_ite (d : Dictionary) (tree : ShallowTree) :
    d.transfer tree = if d.capitalizes tree.tokens then
      capitalizeFirst (d.translateRow (firstPosition? tree.tokens) none tree.tokens)
    else d.translateRow (firstPosition? tree.tokens) none tree.tokens := rfl

theorem MovesCapital.capitalizes {d : Dictionary} {tokens : List TaggedToken}
    (h : d.MovesCapital tokens) : d.capitalizes tokens = true := by
  obtain ⟨hcase, before, t, after, hsplit, hopens, htitle, -⟩ := h
  rw [Dictionary.capitalizes, Bool.and_eq_true]
  exact ⟨hcase, startsCapitalized_iff.mpr ⟨before, t, after, hsplit, hopens, htitle⟩⟩

/-- A capital that does not move on is the one that the first token has. -/
theorem isTitleCase_of_capitalizes {d : Dictionary} {t : TaggedToken} {rest : List TaggedToken}
    (h : d.capitalizes (t :: rest) = true) (hstays : ¬ d.MovesCapital (t :: rest)) :
    Text.isTitleCase t.text = true := by
  rw [capitalizes, Bool.and_eq_true, startsCapitalized_iff] at h
  obtain ⟨hcase, before, u, after, hsplit, hopens, htitle⟩ := h
  cases before with
  | nil =>
    obtain ⟨rfl, -⟩ := List.cons.inj hsplit
    exact htitle
  | cons v before =>
    exact absurd ⟨hcase, v :: before, u, after, hsplit, hopens, htitle, by simp⟩ hstays

/-! ### Words without a usable entry -/

theorem getElem?_capitalizeFirst (words : List TargetWord) (i : Nat) :
    (capitalizeFirst words)[i]? = words[i]?.map fun w =>
      if i = 0 then { w with text := Text.capitalize w.text } else w := by
  cases words with
  | nil => rfl
  | cons w rest => cases i <;> simp [capitalizeFirst]

/-- Each target word is the translation of the token in its place; only the first one may be
capitalized. -/
theorem getElem?_transfer (d : Dictionary) (tree : ShallowTree) (i : Nat) :
    (d.transfer tree)[i]? = (tree.tokens[i]?.map (d.translateToken (firstPosition? tree.tokens)
      (tagBefore none tree.tokens i) (tagBehind tree.tokens i))).map fun w =>
        if i = 0 ∧ d.capitalizes tree.tokens = true then { w with text := Text.capitalize w.text }
        else w := by
  rw [← getElem?_translateRow, transfer_eq_ite]
  by_cases hcap : d.capitalizes tree.tokens = true
  · rw [if_pos hcap, getElem?_capitalizeFirst]
    simp only [hcap, and_true]
  · rw [if_neg hcap]
    simp [hcap]

/-- An adjective that has come before the noun that began the sentence. -/
def adjectiveFirst : ShallowTree :=
  ⟨[⟨.other, [⟨⟨"roja", 1⟩, "a", .lexicon⟩, ⟨⟨"Casa", 0⟩, "n", .lexicon⟩]⟩]⟩

theorem movesCapital_adjectiveFirst :
    (Dictionary.empty .default).MovesCapital adjectiveFirst.tokens :=
  ⟨rfl, [⟨⟨"roja", 1⟩, "a", .lexicon⟩], ⟨⟨"Casa", 0⟩, "n", .lexicon⟩, [], rfl,
    ⟨by simp [TaggedToken.position], by simp⟩, by decide, by simp⟩

end Dictionary

end ShallowTransfer
