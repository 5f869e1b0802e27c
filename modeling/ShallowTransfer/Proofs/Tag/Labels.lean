import ShallowTransfer.Proofs.Text.LowerCase
import ShallowTransfer.Tree

/-!
Written labels. The matchers that come out of reading are those of a normal form
(`normal_of_parse`): trimmed, a stem in lower case, and told apart by their first character. What
is written of a matcher in normal form is read as this matcher (`parse_render`), and so are the
labels of chunks. Every matcher in normal form describes some tag (`accepts_sample`).
-/

namespace ShallowTransfer

namespace TagMatcher

/-- The matchers that come out of reading. -/
inductive Normal : TagMatcher → Prop
  | any : Normal .any
  | whole {tag : Tag} : tag.toList ≠ [] → Text.Trimmed ('=' :: tag.toList) → Normal (.whole tag)
  | stem {start : String} : start.toList ≠ [] → Text.Trimmed start.toList →
      start.toList.head? ≠ some '=' → start.toList ≠ ['*'] → Text.lowercase start = start →
      Normal (.stem start)

theorem normal_stem {text : List Char} (hne : text ≠ []) (htrim : Text.Trimmed text)
    (hwhole : text.head? ≠ some '=') (hany : text ≠ ['*']) :
    Normal (.stem (Text.lowercase (String.ofList text))) := by
  have hequals : ¬ Text.Settled '=' := by decide
  have hstar : ¬ Text.Settled '*' := by decide
  have hlist : (Text.lowercase (String.ofList text)).toList = Text.lowerAfter [] text := by
    rw [Text.lowercase, String.toList_ofList, String.toList_ofList]
  refine Normal.stem ?_ ?_ ?_ ?_ (Text.lowercase_lowercase _)
  · rw [hlist]
    exact fun h => hne (Text.lowerAfter_eq_nil_iff.mp h)
  · rw [hlist]
    exact Text.trimmed_lowerAfter htrim
  · rw [hlist]
    intro h
    rcases Text.head?_lowerAfter h with hhead | hsettled
    · exact hwhole hhead
    · exact hequals hsettled
  · rw [hlist]
    exact fun h => hany (Text.eq_singleton_of_lowerAfter h hstar)

/-- A matcher that has been read is in normal form. -/
theorem normal_of_parse {s : String} {m : TagMatcher} (h : parse s = .ok m) : m.Normal := by
  have htrim := Text.trimmed_trimChars s.toList
  unfold parse at h
  split at h
  · cases h
  · cases h
  · cases h
    exact Normal.any
  · next tag hne heq =>
    cases h
    rw [heq] at htrim
    refine Normal.whole ?_ ?_
    · rw [String.toList_ofList]
      rintro rfl
      exact hne rfl
    · rwa [String.toList_ofList]
  · next text hnil _ hany hwhole =>
    cases h
    refine normal_stem hnil htrim ?_ hany
    intro hhead
    obtain ⟨tag, htag⟩ := List.head?_eq_some_iff.mp hhead
    exact hwhole tag htag

/-- What is written of a matcher in normal form is read as this matcher. -/
theorem parse_render {m : TagMatcher} (h : m.Normal) : parse m.render = .ok m := by
  cases h with
  | any => rfl
  | @whole tag hne htrim =>
    have hlist : Text.trimChars (render (.whole tag)).toList = '=' :: tag.toList := by
      rw [render, String.toList_append]
      exact Text.trimChars_of_trimmed htrim
    obtain ⟨c, rest, hcons⟩ := List.exists_cons_of_ne_nil hne
    unfold parse
    rw [hlist, hcons]
    simp only [← hcons, String.ofList_toList]
  | @stem start hne htrim hwhole hany hlower =>
    have hlist : Text.trimChars (render (.stem start)).toList = start.toList :=
      Text.trimChars_of_trimmed htrim
    unfold parse
    rw [hlist]
    split
    · next hnil => exact absurd hnil hne
    · next heq => exact absurd (by rw [heq]; rfl) hwhole
    · next heq => exact absurd heq hany
    · next tag _ heq => exact absurd (by rw [heq]; rfl) hwhole
    · rw [String.ofList_toList, hlower]

/-- A tag that the matcher describes, if it is in normal form. -/
def sample : TagMatcher → Tag
  | .any => ""
  | .whole tag => tag
  | .stem start => start

theorem accepts_sample {m : TagMatcher} (h : m.Normal) : m.accepts m.sample = true := by
  cases h with
  | any => rfl
  | whole _ _ => exact decide_eq_true rfl
  | stem _ _ _ _ hlower =>
    rw [sample, accepts, hlower]
    exact List.isPrefixOf_iff_prefix.mpr (List.prefix_refl _)

end TagMatcher

namespace ChunkKind

theorem trim_label (k : ChunkKind) : Text.trim k.label = k.label := by
  cases k <;> decide

/-- What is written of a kind is read as this kind. -/
theorem parse_label (k : ChunkKind) : parse k.label = .ok k := by
  cases k <;> rfl

end ChunkKind

end ShallowTransfer
