import Mathlib.Data.List.Nodup
import ShallowTransfer.Proofs.Chunking.Greedy
import ShallowTransfer.Proofs.Lexical.PassedThrough
import ShallowTransfer.Proofs.Reordering.Permutation
import ShallowTransfer.Proofs.Tagging.Replay
import ShallowTransfer.Proofs.Text.Words
import ShallowTransfer.Translator

/-!
Every word of a sentence is accounted for in its translation. Tagging gives each token a tag,
chunking keeps the tokens in their order, transfer rearranges them, and the target words stand for
the tokens of the reordered tree one by one. No stage fails, and sorting the target words by the
positions of the words they stand for gives the tagged sentence back (`source_inSourceOrder`), whose
words are the text without its white space.
-/

namespace ShallowTransfer

/-! ### The order of the source -/

/-- The positions of tokens made of words count from zero. -/
theorem map_position_tokensFrom (words : List String) :
    (tokensFrom words).map Token.position = List.range words.length := by
  rw [tokensFrom, List.map_map, List.range_eq_range', ← List.zipIdx_map_snd 0 words]
  rfl

/-- The target words in the order of the words they stand for in the source sentence. -/
def Rendition.inSourceOrder (r : Rendition) : List TargetWord :=
  r.words.mergeSort fun v w => Nat.ble v.source.position w.source.position

/-- Tokens whose positions count from zero are found again by sorting. -/
theorem mergeSort_position_of_perm {tokens sentence : List TaggedToken} {n : Nat}
    (h : tokens.Perm sentence) (hpos : sentence.map TaggedToken.position = List.range n) :
    tokens.mergeSort (fun t u => Nat.ble t.position u.position) = sentence := by
  have hnodup : (sentence.map TaggedToken.position).Nodup := hpos ▸ List.nodup_range
  have hsorted : sentence.Pairwise fun t u => Nat.ble t.position u.position = true := by
    have hlt : (sentence.map TaggedToken.position).Pairwise (· < ·) := hpos ▸ List.pairwise_lt_range
    exact (List.pairwise_map.mp hlt).imp fun hlt => Nat.ble_eq.mpr (Nat.le_of_lt hlt)
  rw [← List.mergeSort_of_pairwise hsorted]
  refine mergeSort_eq_of_perm (fun t u v => ble_trans t.position u.position v.position)
    (fun t u => ble_total t.position u.position) (fun t ht u hu htu hut => ?_) h
  -- tokens at the same position are the same
  exact List.inj_on_of_nodup_map hnodup ht hu (ble_antisymm t.position u.position htu hut)

open Text (join_splitWords)

namespace Translator

variable (t : Translator)

/-- The tokens of a sentence with the tags that the tagger gives them. -/
def taggedSentence (s : String) : List TaggedToken :=
  t.tagger.tag (tokenize s)

/-- Tagging a sentence changes nothing in its tokens. -/
theorem map_taggedSentence {α : Type} (f : Token → α) (s : String) :
    (t.taggedSentence s).map (fun x => f x.token) = (tokenize s).map f := by
  rw [← t.tagger.map_token_tag (tokenize s), List.map_map]
  rfl

theorem map_position_taggedSentence (s : String) : (t.taggedSentence s).map TaggedToken.position =
    List.range (Text.splitWords s).length :=
  (t.map_taggedSentence Token.position s).trans (map_position_tokensFrom _)

theorem map_text_taggedSentence (s : String) :
    (t.taggedSentence s).map TaggedToken.text = Text.splitWords s :=
  (t.map_taggedSentence Token.text s).trans (map_text_tokensFrom _)

/-- All stages succeed on every sentence. -/
theorem exists_translateSentence_eq_ok (s : String) :
    ∃ r, t.translateSentence s = .ok r ∧
      r.words.map TargetWord.source = r.tree.tokens ∧ r.tree.tokens.Perm (t.taggedSentence s) := by
  let source : ShallowTree := ⟨t.chunker.grammar.segment (t.taggedSentence s)⟩
  let tree := SyntacticTransfer.finish
    (SyntacticTransfer.run t.transfer.rules (SyntacticTransfer.start source))
  have hchunk : t.chunker.chunk (t.taggedSentence s) = .ok source := t.chunker.chunk_eq_ok _
  have htransfer : t.transfer.transfer source = .ok tree := t.transfer.transfer_eq_ok source
  have hstages : t.stages (tokenize s) = .ok ⟨source, tree, t.dictionary.transfer tree⟩ :=
    bind_eq_ok_iff.mpr ⟨source, hchunk, bind_eq_ok_iff.mpr ⟨tree, htransfer, rfl⟩⟩
  have hperm : tree.tokens.Perm source.tokens := t.transfer.tokens_finish_perm source
  have htokens : source.tokens = t.taggedSentence s := ChunkGrammar.flatMap_tokens_segment _ _
  refine ⟨⟨source, tree, t.dictionary.transfer tree⟩, ?_, ?_, htokens ▸ hperm⟩
  · rw [translateSentence, translateTokens, hstages]
  · exact t.dictionary.map_source_transfer tree

/-- In the order of the source, the target words stand for the tagged sentence. -/
theorem source_inSourceOrder {s : String} {r : Rendition}
    (h : (r.words.map TargetWord.source).Perm (t.taggedSentence s)) :
    r.inSourceOrder.map TargetWord.source = t.taggedSentence s := by
  have hmap : r.inSourceOrder.map TargetWord.source =
      (r.words.map TargetWord.source).mergeSort fun t u => Nat.ble t.position u.position :=
    List.map_mergeSort fun _ _ _ _ => rfl
  rw [hmap]
  exact mergeSort_position_of_perm h (t.map_position_taggedSentence s)

/-- Every sentence is translated, and its words are all accounted for: the target words stand for
the tokens of the reordered tree one by one; in the order of the source they stand for the words of
the sentence at the positions from zero on, with the tags and origins that the tagger gave them; and
the words they stand for, put together in this order, are the sentence without its white space. -/
theorem translateSentence_accounts_for_words (s : String) :
    ∃ r, t.translateSentence s = .ok r ∧
      r.words.map TargetWord.source = r.tree.tokens ∧
      r.inSourceOrder.Perm r.words ∧
      r.inSourceOrder.map TargetWord.source = t.tagger.tag (tokenize s) ∧
      r.inSourceOrder.map (fun w => w.source.position) =
        List.range (Text.splitWords s).length ∧
      r.inSourceOrder.map (fun w => w.source.text) = Text.splitWords s ∧
      String.join (r.inSourceOrder.map fun w => w.source.text) =
        String.ofList (s.toList.filter fun c => !Text.isBlank c) := by
  obtain ⟨r, hok, hsource, hperm⟩ := t.exists_translateSentence_eq_ok s
  have horder := t.source_inSourceOrder (hsource ▸ hperm)
  have hpositions : r.inSourceOrder.map (fun w => w.source.position) =
      List.range (Text.splitWords s).length := by
    rw [← t.map_position_taggedSentence s, ← horder, List.map_map]
    rfl
  have htexts : r.inSourceOrder.map (fun w => w.source.text) = Text.splitWords s := by
    rw [← t.map_text_taggedSentence s, ← horder, List.map_map]
    rfl
  refine ⟨r, hok, hsource, List.mergeSort_perm _ _, horder, hpositions, htexts, ?_⟩
  rw [htexts, join_splitWords]

end Translator

end ShallowTransfer
