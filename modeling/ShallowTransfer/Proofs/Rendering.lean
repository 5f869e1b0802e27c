import ShallowTransfer.Proofs.Text.Words
import ShallowTransfer.Translator

/-!
Rendering never glues or breaks words. Where a word is joined to a text there is a seam: either a
blank is put in front of the word, or the word begins with punctuation that attaches to the text,
and all such punctuation consists of splitting characters (`isSplitting_of_attaching`). So the words
of a joined text are those of the texts that it is joined of (`splitWords_joinWords`), be they words,
empty, or several words each.
-/

namespace ShallowTransfer

namespace Text

/-! ### One more word -/

theorem isBlank_space : isBlank ' ' = true := by
  decide

/-- The punctuation that attaches to the word on its left is a word of its own. -/
theorem isSplitting_of_attaching {c : Char} (h : attachingChars.contains c = true) :
    isSplitting c = true := by
  have hall : attachingChars.all isSplitting = true := by decide
  exact List.all_eq_true.mp hall c (List.contains_iff_mem.mp h)

/-- A word that attaches to the word on its left begins with a splitting character. -/
theorem startsApart_of_attaches {word : List Char} (h : attaches word = true) :
    StartsApart word := by
  cases word with
  | nil => cases h
  | cons c _ => exact startsApart_cons.mpr (.inr (isSplitting_of_attaching h))

/-- The words of a text with one more word are those of both. -/
theorem splitChars_appendWord (text word : List Char) :
    splitChars (appendWord text word) = splitChars text ++ splitChars word := by
  rw [appendWord]
  split
  · next h =>
    rcases Bool.or_eq_true_iff.mp h with hempty | hattaches
    · rw [List.isEmpty_iff.mp hempty, List.nil_append, splitChars_nil, List.nil_append]
    · exact splitChars_append text (startsApart_of_attaches hattaches)
  · rw [splitChars_append text (startsApart_cons.mpr (.inl isBlank_space)),
      splitChars_cons_of_isBlank isBlank_space]

/-! ### Joined texts -/

theorem splitChars_foldl_appendWord (words : List (List Char)) (text : List Char) :
    splitChars (words.foldl appendWord text) = splitChars text ++ words.flatMap splitChars := by
  induction words generalizing text with
  | nil => simp
  | cons word words ih =>
    rw [List.foldl_cons, ih, splitChars_appendWord, List.flatMap_cons, List.append_assoc]

/-- The words of a joined text are those of the texts it is joined of. -/
theorem splitWords_join (texts : List String) :
    splitWords (joinWords texts) = texts.flatMap splitWords := by
  simp only [splitWords, joinWords, joinChars, String.toList_ofList, splitChars_foldl_appendWord,
    splitChars_nil, List.nil_append, List.map_flatMap, List.flatMap_map]
  rfl

/-- Words that have been joined are split again. -/
theorem splitWords_join_splitWords (s : String) :
    splitWords (joinWords (splitWords s)) = splitWords s := by
  rw [splitWords_join, List.flatMap_congr fun w hw => splitWords_of_mem hw, List.flatMap_singleton']

/-- Rendering never glues or breaks words: splitting a joined text gives the words of the texts that
it is joined of, one after another, whatever these texts are. So splitting the joined words of a text
gives these words again, and splitting a rendered sentence gives the words of its target words. -/
theorem splitWords_joinWords :
    (∀ texts : List String, splitWords (joinWords texts) = texts.flatMap splitWords) ∧
    (∀ s : String, splitWords (joinWords (splitWords s)) = splitWords s) ∧
    ∀ r : Rendition, splitWords r.text = r.words.flatMap fun w => splitWords w.text := by
  refine ⟨splitWords_join, splitWords_join_splitWords, fun r => ?_⟩
  rw [Rendition.text, splitWords_join, List.flatMap_map]

end Text

end ShallowTransfer
