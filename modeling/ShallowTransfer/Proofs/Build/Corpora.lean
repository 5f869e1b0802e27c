import ShallowTransfer.Build.Corpus
import ShallowTransfer.Proofs.Build.Lines

/-!
Corpus files and lexicon files. Both are read entry by entry, and an entry that is no pair of two
columns is refused in both (`refusedFor_pair`). A corpus keeps its pairs in the order of the lines
and a lexicon is the same pairs without the sentences (`parseLexicon_eq`). The sentences of a corpus
are what is between blank lines: two pairs that follow each other are in different sentences exactly
if a blank line is between theirs (`parseCorpus_by_lines`).
-/

namespace ShallowTransfer.Build

/-! ### Pairs -/

/-- The pair on a line of two columns that are not blank: what they hold apart from the white space
around it. -/
def PairOn (line : List Char) (pair : String × Tag) : Prop :=
  ∃ word tag, line.splitOn '\t' = [word, tag] ∧ Text.trimChars word ≠ [] ∧
    Text.trimChars tag ≠ [] ∧
    pair = (String.ofList (Text.trimChars word), String.ofList (Text.trimChars tag))

/-- The only fault of a line with a pair is that there is none. -/
def NoPair (line : List Char) (m : String) : Prop :=
  (∀ pair, ¬ PairOn line pair) ∧ m = pairMessage

theorem Line.columns_eq (l : Line) : l.columns = (l.chars.splitOn '\t').map Text.trimChars := by
  rw [Line.columns, splitAt_eq_splitOn]

/-- A pair is read from a line that has one, and every other line is refused. -/
theorem Line.pair_cases (path : String) (l : Line) :
    (∃ pair, PairOn l.chars pair ∧ l.pair path = .ok pair) ∨
      (∀ pair, ¬ PairOn l.chars pair) ∧ l.pair path = .error (l.error path pairMessage) := by
  unfold Line.pair PairOn
  rw [l.columns_eq]
  match h : l.chars.splitOn '\t' with
  | [] => simp
  | [_] => simp
  | [word, tag] =>
    by_cases hword : Text.trimChars word = []
    · simp [hword]
    · by_cases htag : Text.trimChars tag = []
      · simp [htag]
      · simp [hword, htag]
  | _ :: _ :: _ :: _ => simp

theorem Line.pairOn_of_pair {path : String} {l : Line} {pair : String × Tag}
    (h : l.pair path = .ok pair) : PairOn l.chars pair := by
  rcases l.pair_cases path with ⟨pair', hon, hpair⟩ | ⟨-, herror⟩
  · rw [h] at hpair
    cases hpair
    exact hon
  · rw [h] at herror
    cases herror

/-- A line is refused as a pair exactly if there is none on it. -/
theorem refusedFor_pair (path : String) : RefusedFor NoPair path (Line.pair path) := by
  intro l e
  rcases l.pair_cases path with ⟨pair, hon, hpair⟩ | ⟨hnone, herror⟩
  · constructor
    · intro h
      rw [hpair] at h
      cases h
    · rintro ⟨m, ⟨hnone, -⟩, -⟩
      exact absurd hon (hnone pair)
  · rw [herror]
    constructor
    · intro h
      cases h
      exact ⟨_, ⟨hnone, rfl⟩, rfl⟩
    · rintro ⟨_, ⟨-, rfl⟩, rfl⟩
      rfl

/-! ### The pairs of a corpus -/

theorem flatten_addSentence (sentence : List (String × Tag)) (corpus : Corpus) :
    (addSentence sentence corpus).flatten = sentence ++ corpus.flatten := by
  rw [addSentence]
  split
  · next h => rw [List.isEmpty_iff.mp h, List.nil_append]
  · rw [List.flatten_cons]

theorem parseCorpus_eq (text path : String) :
    parseCorpus text path =
      (sentencesOf path (lines text)).map fun s => addSentence s.1 s.2 := by
  rw [parseCorpus]
  cases sentencesOf path (lines text) <;> rfl

/-- The sentences of lines hold the pairs of all lines that are not blank. -/
theorem map_flatten_sentencesOf (path : String) (ls : List Line) :
    (sentencesOf path ls).map (fun s => (addSentence s.1 s.2).flatten) =
      (ls.filter fun l => !l.isBlank).mapM (Line.pair path) := by
  induction ls with
  | nil => rfl
  | cons l rest ih =>
    rw [sentencesOf]
    split
    · next hblank =>
      rw [List.filter_cons_of_neg (by simp [hblank]), ← ih]
      cases sentencesOf path rest <;> rfl
    · next hblank =>
      rw [List.filter_cons_of_pos (by simp [hblank]), List.mapM_cons, ← ih]
      cases l.pair path with
      | error e => rfl
      | ok pair =>
        cases sentencesOf path rest with
        | error e => rfl
        | ok s =>
          have hflat : (addSentence (pair :: s.1) s.2).flatten =
              pair :: (addSentence s.1 s.2).flatten := by
            rw [flatten_addSentence, flatten_addSentence, List.cons_append]
          exact congrArg Except.ok hflat

/-- A lexicon is read from a text as a corpus is, but for the sentences. -/
theorem parseLexicon_eq (text path : String) :
    parseLexicon text path = (parseCorpus text path).map List.flatten := by
  rw [parseLexicon, ← map_flatten_sentencesOf, parseCorpus_eq]
  cases sentencesOf path (lines text) <;> rfl

/-! ### The borders of sentences -/

/-- No sentence is added without words. -/
theorem nil_not_mem_addSentence {corpus : Corpus} (h : [] ∉ corpus)
    (sentence : List (String × Tag)) : [] ∉ addSentence sentence corpus := by
  rw [addSentence]
  split
  · exact h
  · next hne =>
    rw [List.mem_cons, not_or]
    exact ⟨fun heq => hne (by rw [← heq]; rfl), h⟩

theorem nil_not_mem_sentencesOf {path : String} :
    ∀ (ls : List Line) {sentence : List (String × Tag)} {corpus : Corpus},
      sentencesOf path ls = .ok (sentence, corpus) → [] ∉ corpus
  | [], _, _, h => by cases h; simp
  | l :: rest, sentence, corpus, h => by
    rw [sentencesOf] at h
    split at h
    · obtain ⟨⟨sentence', corpus'⟩, hrest, h⟩ := bind_eq_ok_iff.mp h
      cases h
      exact nil_not_mem_addSentence (nil_not_mem_sentencesOf rest hrest) sentence'
    · obtain ⟨pair, -, h⟩ := bind_eq_ok_iff.mp h
      obtain ⟨⟨sentence', corpus'⟩, hrest, h⟩ := bind_eq_ok_iff.mp h
      cases h
      exact nil_not_mem_sentencesOf rest hrest

/-- The number of the sentence that holds the `k`-th pair of a corpus, both counted from zero. -/
def sentenceOf : Corpus → Nat → Nat
  | [], _ => 0
  | sentence :: rest, k =>
    if k < sentence.length then 0 else sentenceOf rest (k - sentence.length) + 1

theorem sentenceOf_zero (pair : String × Tag) (sentence : List (String × Tag)) (corpus : Corpus) :
    sentenceOf (addSentence (pair :: sentence) corpus) 0 = 0 :=
  rfl

/-- One more pair at the front moves the pairs behind it, and it makes a sentence of its own if no
sentence goes on behind it. -/
theorem sentenceOf_succ (pair : String × Tag) (sentence : List (String × Tag)) (corpus : Corpus)
    (k : Nat) :
    sentenceOf (addSentence (pair :: sentence) corpus) (k + 1) =
      sentenceOf (addSentence sentence corpus) k + if sentence.isEmpty then 1 else 0 := by
  cases sentence with
  | nil => simp [addSentence, sentenceOf]
  | cons next sentence => simp [addSentence, sentenceOf]

/-- The first pair of the lines and the next one, which is behind some blank lines. -/
theorem sentenceOf_first {path : String} {a b : Line} {middle back : List Line}
    (ha : a.isBlank = false) (hb : b.isBlank = false) (hmiddle : ∀ l ∈ middle, l.isBlank = true)
    {sentence : List (String × Tag)} {corpus : Corpus}
    (h : sentencesOf path (a :: (middle ++ b :: back)) = .ok (sentence, corpus)) :
    sentenceOf (addSentence sentence corpus) 0 ≠ sentenceOf (addSentence sentence corpus) 1 ↔
      middle ≠ [] := by
  simp only [sentencesOf, ha, Bool.false_eq_true, if_false] at h
  obtain ⟨pair, -, h⟩ := bind_eq_ok_iff.mp h
  obtain ⟨⟨sentence', corpus'⟩, hrest, h⟩ := bind_eq_ok_iff.mp h
  cases h
  rw [sentenceOf_zero, sentenceOf_succ]
  cases middle with
  | nil =>
    simp only [List.nil_append, sentencesOf, hb, Bool.false_eq_true, if_false] at hrest
    obtain ⟨next, -, hrest⟩ := bind_eq_ok_iff.mp hrest
    obtain ⟨⟨sentence'', corpus''⟩, -, hrest⟩ := bind_eq_ok_iff.mp hrest
    cases hrest
    simp [sentenceOf_zero]
  | cons l middle =>
    simp only [List.cons_append, sentencesOf, hmiddle l List.mem_cons_self, if_true] at hrest
    obtain ⟨⟨sentence'', corpus''⟩, -, hrest⟩ := bind_eq_ok_iff.mp hrest
    cases hrest
    simp

/-- A pair and the next one are in different sentences exactly if blank lines are between them. -/
theorem sentenceOf_ne_iff {path : String} {a b : Line} {middle back : List Line}
    (ha : a.isBlank = false) (hb : b.isBlank = false) (hmiddle : ∀ l ∈ middle, l.isBlank = true) :
    ∀ (front : List Line) {sentence : List (String × Tag)} {corpus : Corpus},
      sentencesOf path (front ++ a :: (middle ++ b :: back)) = .ok (sentence, corpus) →
        (sentenceOf (addSentence sentence corpus) (front.countP fun l => !l.isBlank) ≠
            sentenceOf (addSentence sentence corpus) ((front.countP fun l => !l.isBlank) + 1) ↔
          middle ≠ [])
  | [], _, _, h => sentenceOf_first ha hb hmiddle h
  | l :: front, sentence, corpus, h => by
    rw [List.cons_append, sentencesOf] at h
    split at h
    · next hblank =>
      -- A blank line in front begins no sentence, as no words are before it.
      obtain ⟨⟨sentence', corpus'⟩, hrest, h⟩ := bind_eq_ok_iff.mp h
      cases h
      have hnone : addSentence [] (addSentence sentence' corpus') =
          addSentence sentence' corpus' := rfl
      rw [List.countP_cons_of_neg (by simp [hblank]), hnone]
      exact sentenceOf_ne_iff ha hb hmiddle front hrest
    · next hblank =>
      obtain ⟨pair, -, h⟩ := bind_eq_ok_iff.mp h
      obtain ⟨⟨sentence', corpus'⟩, hrest, h⟩ := bind_eq_ok_iff.mp h
      cases h
      -- One more pair in front moves the numbers of both sentences by as much.
      rw [List.countP_cons_of_pos (by simp [hblank]), sentenceOf_succ, sentenceOf_succ, ne_eq,
        Nat.add_right_cancel_iff]
      exact sentenceOf_ne_iff ha hb hmiddle front hrest

/-! ### Corpora by their lines -/

theorem countP_keptFrom (n : Nat) (ls : List (List Char)) :
    ((keptFrom n ls).countP fun l => !l.isBlank) = ls.countP isEntry := by
  have hmap := congrArg (List.countP isEntry) (map_chars_numberFrom n ls)
  rw [List.countP_map] at hmap
  rw [keptFrom, List.countP_filter, ← hmap]
  refine List.countP_congr fun l _ => ?_
  rw [Function.comp_apply, isEntry, Line.isBlank, Bool.and_comm]

theorem chars_of_mem_keptFrom {n : Nat} {ls : List (List Char)} {l : Line} (h : l ∈ keptFrom n ls) :
    l.chars ∈ ls ∧ isComment l.chars = false := by
  obtain ⟨hmem, hkept⟩ := List.mem_filter.mp h
  refine ⟨?_, by simpa using hkept⟩
  rw [← map_chars_numberFrom n ls]
  exact List.mem_map_of_mem hmem

/-- Lines without entries are blank or comments, and of these the blank ones are kept. -/
theorem keptFrom_ne_nil_iff {ls : List (List Char)} (h : ∀ line ∈ ls, isEntry line = false)
    (n : Nat) : keptFrom n ls ≠ [] ↔ ∃ line ∈ ls, line.all Text.isBlank = true := by
  induction ls generalizing n with
  | nil => simp [keptFrom, numberFrom]
  | cons line ls ih =>
    rw [List.forall_mem_cons] at h
    rw [keptFrom_cons, List.exists_mem_cons_iff]
    cases hblank : line.all Text.isBlank with
    | true => simp [isComment_of_all hblank]
    | false =>
      have hcomment : isComment line = true := by simpa [isEntry, hblank] using h.1
      simp [hcomment, ih h.2]

/-- The sentences of a corpus are parted by the blank lines between two entries that follow each
other. -/
theorem sentenceOf_ne_iff_exists_blank {text path : String} {corpus : Corpus}
    (h : parseCorpus text path = .ok corpus) {front middle back : List (List Char)}
    {a b : List Char} (hlines : textLines text.toList = front ++ a :: (middle ++ b :: back))
    (ha : isEntry a = true) (hb : isEntry b = true) (hmiddle : ∀ l ∈ middle, isEntry l = false) :
    sentenceOf corpus (front.countP isEntry) ≠ sentenceOf corpus (front.countP isEntry + 1) ↔
      ∃ l ∈ middle, l.all Text.isBlank = true := by
  rw [parseCorpus_eq] at h
  obtain ⟨⟨sentence, rest⟩, hsentences, rfl⟩ := map_eq_ok_iff.mp h
  rw [isEntry, Bool.and_eq_true, Bool.not_eq_true', Bool.not_eq_true'] at ha hb
  rw [lines_eq, hlines, keptFrom_append, keptFrom_cons, if_neg (by simp [ha.1]), keptFrom_append,
    keptFrom_cons, if_neg (by simp [hb.1])] at hsentences
  rw [← countP_keptFrom 1, ← keptFrom_ne_nil_iff hmiddle]
  have hblank : ∀ l ∈ keptFrom (1 + front.length + 1) middle, l.isBlank = true := by
    intro l hl
    obtain ⟨hmem, hcomment⟩ := chars_of_mem_keptFrom hl
    have hentry := hmiddle _ hmem
    rwa [isEntry, hcomment, Bool.not_false, Bool.true_and, Bool.not_eq_false'] at hentry
  exact sentenceOf_ne_iff (a := ⟨_, a⟩) (b := ⟨_, b⟩) ha.2 hb.2 hblank _ hsentences

/-- A lexicon is read from a text exactly as a corpus is, but for the sentences, and it is refused
for the same fault. Both are read exactly if each line but for comments and blank ones is a pair,
and are refused for the first line that is not. A corpus has no sentence without words, and its
words are the pairs in the order of their lines; of two lines with pairs that follow each other the
pairs are in different sentences exactly if a blank line is between them. -/
theorem parseCorpus_by_lines (text path : String) :
    parseLexicon text path = (parseCorpus text path).map List.flatten ∧
      ((∃ corpus, parseCorpus text path = .ok corpus) ↔
        ∀ line ∈ textLines text.toList, isEntry line = true → ∃ pair, PairOn line pair) ∧
      (∀ e, parseCorpus text path = .error e ↔
        ∃ n m, FirstFault NoPair (textLines text.toList) n m ∧ e = .parse path n m) ∧
      ∀ corpus, parseCorpus text path = .ok corpus →
        [] ∉ corpus ∧
        List.Forall₂ PairOn ((textLines text.toList).filter isEntry) corpus.flatten ∧
        ∀ front a middle b back, textLines text.toList = front ++ a :: (middle ++ b :: back) →
          isEntry a = true → isEntry b = true → (∀ l ∈ middle, isEntry l = false) →
            (sentenceOf corpus (front.countP isEntry) ≠
                sentenceOf corpus (front.countP isEntry + 1) ↔
              ∃ l ∈ middle, l.all Text.isBlank = true) := by
  have hlexicon := parseLexicon_eq text path
  have hrefused := refusedFor_pair path
  have hnone (line : List Char) : (∀ m, ¬ NoPair line m) ↔ ∃ pair, PairOn line pair := by
    simp [NoPair]
  refine ⟨hlexicon, ?_, fun e => ?_, fun corpus hcorpus => ⟨?_, ?_, ?_⟩⟩
  · have hexists := hrefused.exists_mapM_iff text
    simp only [hnone] at hexists
    rw [← hexists, ← error?_eq_none_iff, ← error?_eq_none_iff, ← error?_map List.flatten, ← hlexicon]
    rfl
  · rw [← hrefused.mapM_eq_error_iff, ← error?_eq_some_iff, ← error?_eq_some_iff,
      ← error?_map List.flatten, ← hlexicon]
    rfl
  · rw [parseCorpus_eq] at hcorpus
    obtain ⟨⟨sentence, rest⟩, hsentences, rfl⟩ := map_eq_ok_iff.mp hcorpus
    exact nil_not_mem_addSentence (nil_not_mem_sentencesOf _ hsentences) sentence
  · rw [hcorpus] at hlexicon
    rw [← map_chars_entryLines, List.forall₂_map_left_iff]
    exact (mapM_eq_ok_iff.mp hlexicon).imp fun _ _ => Line.pairOn_of_pair
  · intro front a middle b back hlines ha hb hmiddle
    exact sentenceOf_ne_iff_exists_blank hcorpus hlines ha hb hmiddle

/-- A comment between two pairs parts no sentence, and a blank line does. -/
example : parseCorpus "a\tn\n# b\nc\tn\n\n\nd\tn" "" =
    .ok [[("a", "n"), ("c", "n")], [("d", "n")]] := by
  decide

end ShallowTransfer.Build
