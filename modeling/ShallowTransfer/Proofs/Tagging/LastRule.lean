import ShallowTransfer.Proofs.Tagging.Neighbours

/-!
The last rule wins. A rule that fires at a place gives the word there its target and its index,
whatever the rules before it did, and a rule that does not fire there leaves both alone. So a token
owes its tag and its origin to the last rule that fired at its place, and to the lexicon if there is
none (`Tagger.tag_of_last_fired`). Whether a rule fires is decided on the sentence as the rules
before it leave it (`Tagger.snapshot`).
-/

namespace ShallowTransfer

namespace Tagger

/-- The words with their tags after the first `k` rules. -/
def snapshot (t : Tagger) (tokens : List Token) (k : Nat) : List Seen :=
  (t.run tokens (t.indexedRules.take k)).seen

/-- The rule at index `k` fires at a place, on the tags that the rules before it leave. -/
def Fired (t : Tagger) (tokens : List Token) (i k : Nat) (r : TransformRule) : Prop :=
  t.rules.rules[k]? = some r ∧ r.FiresAt (t.snapshot tokens k) i

/-- Of the first `n` rules the one at index `k` is the last one that fires at a place. -/
structure LastFired (t : Tagger) (tokens : List Token) (i n k : Nat) (r : TransformRule) :
    Prop where
  lt : k < n
  fired : t.Fired tokens i k r
  last : ∀ j, k < j → j < n → ∀ r', ¬ t.Fired tokens i j r'

/-- The last rule that fired stays the last one if the next rule does not fire. -/
theorem LastFired.succ {t : Tagger} {tokens : List Token} {i n k : Nat} {r : TransformRule}
    (h : t.LastFired tokens i n k r) (hidle : ∀ r', ¬ t.Fired tokens i n r') :
    t.LastFired tokens i (n + 1) k r := by
  refine ⟨Nat.lt_succ_of_lt h.lt, h.fired, fun j hj hlt => ?_⟩
  rcases Nat.lt_succ_iff_lt_or_eq.mp hlt with hlt | rfl
  · exact h.last j hj hlt
  · exact hidle

variable (t : Tagger) (tokens : List Token)

theorem getElem?_indexedRules (k : Nat) :
    t.indexedRules[k]? = t.rules.rules[k]?.map fun r => (r, k) := by
  rw [indexedRules, List.getElem?_zipIdx, Nat.zero_add]

/-- One more rule. -/
theorem run_take_succ {k : Nat} {r : TransformRule} (h : t.rules.rules[k]? = some r) :
    t.run tokens (t.indexedRules.take (k + 1)) =
      (t.run tokens (t.indexedRules.take k)).step (r, k) := by
  have hk : t.indexedRules[k]? = some (r, k) := by rw [getElem?_indexedRules, h, Option.map_some]
  rw [run, run, List.take_add_one, hk, List.foldl_append]
  rfl

/-- The first guesses for the tokens. -/
theorem row_start : (t.start tokens).row = tokens.map fun x =>
    (⟨Text.lowercase x.text, (t.lexicon.lookup x.text).1⟩, (t.lexicon.lookup x.text).2) := by
  rw [start, Tagging.row_initial, List.map_map]
  rfl

/-- The words of a snapshot are those of the run. -/
theorem map_fst_run (k : Nat) :
    (t.run tokens (t.indexedRules.take k)).row.map Prod.fst = t.snapshot tokens k :=
  Tagging.map_fst_row (t.aligned_run tokens _)

/-- Before all rules the words have the tags of the lexicon. -/
theorem snapshot_zero : t.snapshot tokens 0 =
    tokens.map fun x => ⟨Text.lowercase x.text, (t.lexicon.lookup x.text).1⟩ := by
  rw [← map_fst_run, List.take_zero, run, List.foldl_nil, row_start, List.map_map]
  rfl

/-- A rule retags the words where it fires, and leaves the others as they are. -/
theorem getElem?_snapshot_succ {k : Nat} {r : TransformRule} (h : t.rules.rules[k]? = some r)
    (i : Nat) : (t.snapshot tokens (k + 1))[i]? = (t.snapshot tokens k)[i]?.map fun x =>
      if r.FiresAt (t.snapshot tokens k) i then { x with tag := r.target } else x := by
  have hold : (t.snapshot tokens k)[i]? =
      (t.run tokens (t.indexedRules.take k)).row[i]?.map Prod.fst := by
    rw [← map_fst_run, List.getElem?_map]
  rw [← map_fst_run, run_take_succ t tokens h, List.getElem?_map, Tagging.getElem?_row_step,
    ← snapshot, hold, Option.map_map, Option.map_map]
  refine Option.map_congr fun e _ => ?_
  by_cases hfires : r.FiresAt (t.snapshot tokens k) i <;> simp [Tagging.changed, hfires]

/-- What a word owes its tag and its origin to, after the first `n` rules: to the last one of them
that fired there, or to the lexicon. -/
theorem row_run_take {n : Nat} (hn : n ≤ t.rules.rules.length) {i : Nat} {e : Seen × Origin}
    (he : (t.run tokens (t.indexedRules.take n)).row[i]? = some e) :
    (∃ k r, t.LastFired tokens i n k r ∧ e.1.tag = r.target ∧ e.2 = .rule k) ∨
      ((∀ k < n, ∀ r, ¬ t.Fired tokens i k r) ∧ (t.start tokens).row[i]? = some e) := by
  induction n generalizing e with
  | zero => exact .inr ⟨fun _ hk => absurd hk (Nat.not_lt_zero _), he⟩
  | succ n ih =>
    have hr := List.getElem?_eq_getElem hn
    have honly : ∀ r', t.Fired tokens i n r' → r' = t.rules.rules[n] := fun r' h =>
      Option.some.inj (h.1.symm.trans hr)
    rw [run_take_succ t tokens hr, Tagging.getElem?_row_step] at he
    obtain ⟨old, hold, rfl⟩ := Option.map_eq_some_iff.mp he
    split
    · next hfires =>
      refine .inl ⟨n, _, ⟨Nat.lt_succ_self n, ⟨hr, hfires⟩, fun j hj hlt => ?_⟩, rfl, rfl⟩
      omega
    · next hidle =>
      have hnone : ∀ r', ¬ t.Fired tokens i n r' := fun r' h => hidle (honly r' h ▸ h.2)
      rcases ih (Nat.le_of_succ_le hn) hold with ⟨k, r, hlast, htag, horigin⟩ | ⟨hnever, hstart⟩
      · exact .inl ⟨k, r, hlast.succ hnone, htag, horigin⟩
      · refine .inr ⟨fun k hk => ?_, hstart⟩
        rcases Nat.lt_succ_iff_lt_or_eq.mp hk with hk | rfl
        · exact hnever k hk
        · exact hnone

/-- Every token has the tag and the origin that the last rule gave it which fired at its place: the
target of that rule, and its index. A token where no rule fires keeps the first guess. Each rule is
matched against the sentence as the rules before it leave it, and changes no other words. -/
theorem tag_of_last_fired :
    (t.snapshot tokens 0 =
      tokens.map fun x => ⟨Text.lowercase x.text, (t.lexicon.lookup x.text).1⟩) ∧
    (∀ k r, t.rules.rules[k]? = some r → ∀ i,
      (t.snapshot tokens (k + 1))[i]? = (t.snapshot tokens k)[i]?.map fun x =>
        if r.FiresAt (t.snapshot tokens k) i then { x with tag := r.target } else x) ∧
    (t.tag tokens).map TaggedToken.token = tokens ∧
    (∀ i x, (t.tag tokens)[i]? = some x →
      (∃ k r, t.LastFired tokens i t.rules.rules.length k r ∧ x.origin = .rule k ∧
        t.tagSet.name? r.target = some x.tag) ∨
      ((∀ k r, ¬ t.Fired tokens i k r) ∧ (t.initial tokens)[i]? = some x ∧
        x.tag = t.mostLikelyTag x.text ∧ x.origin = (t.lexicon.lookup x.text).2)) ∧
    (t.rules.rules = [] → t.tag tokens = t.initial tokens) := by
  refine ⟨t.snapshot_zero tokens, fun k r h i => t.getElem?_snapshot_succ tokens h i,
    t.map_token_tag tokens, fun i x hx => ?_, fun h => ?_⟩
  · obtain ⟨token, e, htoken, he, rfl⟩ := Tagging.getElem?_finish.mp hx
    have hall : t.indexedRules.take t.rules.rules.length = t.indexedRules :=
      List.take_of_length_le (Nat.le_of_eq List.length_zipIdx)
    rw [← hall] at he
    rcases t.row_run_take tokens (Nat.le_refl _) he with
      ⟨k, r, hlast, htag, horigin⟩ | ⟨hnever, hstart⟩
    · refine .inl ⟨k, r, hlast, horigin, ?_⟩
      have hknown := t.contains_of_mem_rules r (List.mem_of_getElem? hlast.fired.1) _
        r.target_mem_tagIds
      rw [htag]
      exact TagSet.name?_eq_nameOrFallback hknown
    · refine .inr ⟨fun k r h => hnever k (List.getElem?_eq_some_iff.mp h.1).1 r h, ?_⟩
      refine ⟨Tagging.getElem?_finish.mpr ⟨token, e, htoken, hstart, rfl⟩, ?_⟩
      rw [row_start, List.getElem?_map, htoken, Option.map_some, Option.some.injEq] at hstart
      rw [← hstart]
      exact ⟨rfl, rfl⟩
  · rw [tag, indexedRules, h]
    rfl

/-- A tagger whose second rule reads what its first one wrote. -/
def chainTagger : Tagger := ⟨oneWord, ⟨[⟨1, 2, .prevTag 1⟩, ⟨2, 0, .prevTag 2⟩]⟩, by decide⟩

-- The first rule fires at both of the later places, as it does not see what it changes itself.
example : (chainTagger.tag (tokensFrom ["b", "b", "b"])).map (fun x => (x.tag, x.origin)) =
    [("n", .lexicon), ("v", .rule 0), ("x", .rule 1)] := by
  decide

end Tagger

end ShallowTransfer
