import Mathlib.Data.List.Chain
import Mathlib.Data.List.TakeWhile
import ShallowTransfer.Chunking.Chunker

/-!
Greedy segmentation. What the chunks of a sentence should be is said chunk by chunk, without the
recursion that makes them: the first token decides which rule a chunk is of, the others can continue
this rule, and the chunk ends only where the rule has to let go (`ChunkGrammar.Greedy`). There is
exactly one such segmentation of a sentence, since of two stretches of tokens that a rule takes from
the same place neither can be longer (`ChunkRule.Longest.length_le`), and it is the one that the
chunker gives (`Chunker.chunk_greedy`).
-/

namespace ShallowTransfer

/-! ### How far a rule goes -/

namespace ChunkRule

/-- The greatest length of the rule, if it has one, leaves room for a chunk of so many tokens. -/
def Admits (r : ChunkRule) (length : Nat) : Prop :=
  ∀ n ∈ r.maxLength, length ≤ n.val.toNat

/-- A chunk of so many tokens has the greatest length of the rule. -/
def Full (r : ChunkRule) (length : Nat) : Prop :=
  ∃ n ∈ r.maxLength, length = n.val.toNat

/-- The tokens that a chunk takes behind its first one, and those it leaves: all that it takes can
continue it, there is room for them, and it stops only where it has to. -/
structure Longest (r : ChunkRule) (more left : List TaggedToken) : Prop where
  continues : ∀ t ∈ more, r.canContinue t.tag = true
  admits : r.Admits (more.length + 1)
  stops : ∀ t ∈ left.head?, r.canContinue t.tag = false ∨ r.Full (more.length + 1)

variable {r : ChunkRule} {more left more' left' : List TaggedToken}

/-- A token that is left behind by a run of continuing ones cannot continue. -/
theorem canContinue_head?_drop_takeWhile (r : ChunkRule) (rest : List TaggedToken) :
    ∀ t ∈ (rest.drop (rest.takeWhile fun t => r.canContinue t.tag).length).head?,
      r.canContinue t.tag = false := by
  intro t ht
  have hsplit : (rest.takeWhile fun t => r.canContinue t.tag) ++
      (rest.dropWhile fun t => r.canContinue t.tag) = rest := List.takeWhile_append_dropWhile
  have hdrop : ((rest.takeWhile fun t => r.canContinue t.tag) ++
      (rest.dropWhile fun t => r.canContinue t.tag)).drop
        (rest.takeWhile fun t => r.canContinue t.tag).length =
      rest.dropWhile fun t => r.canContinue t.tag := List.drop_left
  rw [hsplit] at hdrop
  rw [hdrop] at ht
  have hnot := List.head?_dropWhile_not (fun t : TaggedToken => r.canContinue t.tag) rest
  rw [Option.mem_def.mp ht] at hnot
  exact hnot

/-- What a chunk takes is as long as it can be. -/
theorem longest_extension (r : ChunkRule) (rest : List TaggedToken) :
    r.Longest (r.extension rest) (rest.drop (r.extension rest).length) := by
  have hrun : ∀ t ∈ rest.takeWhile fun t => r.canContinue t.tag, r.canContinue t.tag = true :=
    fun t ht => List.mem_takeWhile_imp (p := fun t : TaggedToken => r.canContinue t.tag) ht
  have hleft := r.canContinue_head?_drop_takeWhile rest
  unfold extension
  cases hmax : r.maxLength with
  | none =>
    refine ⟨hrun, fun n hn => ?_, fun t ht => .inl (hleft t ht)⟩
    rw [hmax] at hn
    cases hn
  | some n =>
    have hpos : 0 < n.val.toNat := Nat.pos_of_ne_zero fun he => n.property (UInt64.toNat_inj.mp he)
    simp only
    refine ⟨fun t ht => hrun t (List.mem_of_mem_take ht), fun m hm => ?_, fun t ht => ?_⟩
    · rw [hmax] at hm
      cases hm
      rw [List.length_take]
      omega
    · -- either the greatest length cuts the run short, or all of the run is taken
      by_cases hcut : n.val.toNat - 1 < (rest.takeWhile fun t => r.canContinue t.tag).length
      · refine .inr ⟨n, hmax, ?_⟩
        rw [List.length_take]
        omega
      · rw [List.take_of_length_le (Nat.not_lt.mp hcut)] at ht
        exact .inl (hleft t ht)

/-- Of two stretches that a rule takes from the same place neither is longer. -/
theorem Longest.length_le (h : r.Longest more left) (h' : r.Longest more' left')
    (heq : more ++ left = more' ++ left') : more'.length ≤ more.length := by
  by_contra hlt
  rw [Nat.not_le] at hlt
  -- the first token that is left is one that the longer stretch takes
  have hnext : left.head? = some more'[more.length] := by
    have hget := congrArg (fun ts => ts[more.length]?) heq
    rw [List.getElem?_append_right (Nat.le_refl _), Nat.sub_self, List.getElem?_append_left hlt,
      List.getElem?_eq_getElem hlt] at hget
    rw [List.head?_eq_getElem?, hget]
  rcases h.stops _ hnext with hstop | ⟨n, hn, hfull⟩
  · rw [h'.continues _ (List.getElem_mem hlt)] at hstop
    cases hstop
  · have hroom := h'.admits n hn
    omega

/-- A rule takes one stretch only from a place. -/
theorem Longest.unique (h : r.Longest more left) (h' : r.Longest more' left')
    (heq : more ++ left = more' ++ left') : more = more' ∧ left = left' :=
  List.append_inj heq (Nat.le_antisymm (h'.length_le h heq.symm) (h.length_le h' heq))

end ChunkRule

/-! ### What the chunks of a sentence should be -/

namespace ChunkGrammar

/-- The rule is the first one of the grammar that can start with the tag. -/
def Opens (g : ChunkGrammar) (tag : Tag) (r : ChunkRule) : Prop :=
  r.canStart tag = true ∧
    ∃ before after, g.rules = before ++ r :: after ∧ ∀ q ∈ before, q.canStart tag = false

/-- No rule of the grammar can start with the tag. -/
def OpensNone (g : ChunkGrammar) (tag : Tag) : Prop :=
  ∀ r ∈ g.rules, r.canStart tag = false

/-- A chunk as its first token decides: it has the kind of the first rule that can start there,
which all further tokens can continue and which has room for them; where no rule can start, the
token is a chunk of its own. -/
structure Formed (g : ChunkGrammar) (c : Chunk) : Prop where
  nonempty : c.tokens ≠ []
  of_opens : ∀ t more r, c.tokens = t :: more → g.Opens t.tag r →
    c.kind = r.kind ∧ (∀ u ∈ more, r.canContinue u.tag = true) ∧ r.Admits c.tokens.length
  of_opensNone : ∀ t more, c.tokens = t :: more → g.OpensNone t.tag → c.kind = .other ∧ more = []

/-- A chunk of a rule goes before another chunk only if the next token cannot continue the rule or
the chunk has the greatest length already. -/
def EndsBefore (g : ChunkGrammar) (c next : Chunk) : Prop :=
  ∀ t ∈ c.tokens.head?, ∀ r, g.Opens t.tag r → ∀ u ∈ next.tokens.head?,
    r.canContinue u.tag = false ∨ r.Full c.tokens.length

/-- The greedy segmentation of a sentence. -/
structure Greedy (g : ChunkGrammar) (sentence : List TaggedToken) (chunks : List Chunk) : Prop where
  flatMap_tokens : chunks.flatMap Chunk.tokens = sentence
  formed : ∀ c ∈ chunks, g.Formed c
  ends : chunks.IsChain g.EndsBefore

variable {g : ChunkGrammar} {tag : Tag} {r : ChunkRule} {t : TaggedToken}
  {rest sentence : List TaggedToken} {c : Chunk} {chunks : List Chunk}

theorem opener?_eq_some_iff : g.opener? tag = some r ↔ g.Opens tag r := by
  rw [opener?, List.find?_eq_some_iff_append, Opens]
  simp only [Bool.not_eq_true']

theorem opener?_eq_none_iff : g.opener? tag = none ↔ g.OpensNone tag := by
  rw [opener?, List.find?_eq_none, OpensNone]
  simp only [Bool.not_eq_true]

/-- Only one rule is the first that can start with a tag. -/
theorem Opens.unique {r' : ChunkRule} (h : g.Opens tag r) (h' : g.Opens tag r') : r = r' := by
  rw [← opener?_eq_some_iff] at h h'
  exact Option.some.inj (h.symm.trans h')

theorem Opens.not_opensNone (h : g.Opens tag r) : ¬ g.OpensNone tag := by
  intro hnone
  rw [← opener?_eq_some_iff] at h
  rw [← opener?_eq_none_iff, h] at hnone
  cases hnone

/-! ### One chunk -/

/-- Where a rule can start, a chunk is formed by it. -/
theorem formed_cons_iff_of_opens {kind : ChunkKind} {more : List TaggedToken}
    (h : g.Opens t.tag r) :
    g.Formed ⟨kind, t :: more⟩ ↔ kind = r.kind ∧ (∀ u ∈ more, r.canContinue u.tag = true) ∧
      r.Admits (more.length + 1) := by
  constructor
  · intro hc
    exact hc.of_opens t more r rfl h
  · intro hc
    refine ⟨List.cons_ne_nil _ _, fun t' more' r' heq h' => ?_, fun t' more' heq hnone => ?_⟩
    · obtain ⟨rfl, rfl⟩ := List.cons.inj heq
      rw [← h.unique h']
      exact hc
    · obtain ⟨rfl, rfl⟩ := List.cons.inj heq
      exact absurd hnone h.not_opensNone

/-- Where no rule can start, a token is a chunk of its own. -/
theorem formed_cons_iff_of_opensNone {kind : ChunkKind} {more : List TaggedToken}
    (h : g.OpensNone t.tag) : g.Formed ⟨kind, t :: more⟩ ↔ kind = .other ∧ more = [] := by
  constructor
  · intro hc
    exact hc.of_opensNone t more rfl h
  · intro hc
    refine ⟨List.cons_ne_nil _ _, fun t' more' r heq h' => ?_, fun t' more' heq _ => ?_⟩
    · obtain ⟨rfl, rfl⟩ := List.cons.inj heq
      exact absurd h h'.not_opensNone
    · obtain ⟨rfl, rfl⟩ := List.cons.inj heq
      exact hc

/-- The first token of chunks that are not empty is that of the first chunk. -/
theorem head?_flatMap_tokens (h : ∀ c ∈ chunks, g.Formed c) :
    (chunks.flatMap Chunk.tokens).head? = chunks.head?.bind fun c => c.tokens.head? := by
  cases chunks with
  | nil => rfl
  | cons c rest =>
    have hne := (h c List.mem_cons_self).nonempty
    rw [List.flatMap_cons, List.head?_append_of_ne_nil _ hne, List.head?_cons, Option.bind_some]

/-! ### One chunk after another -/

/-- A first chunk in front of a greedy segmentation of the tokens behind it. -/
theorem greedy_cons_iff :
    g.Greedy sentence (c :: chunks) ↔ ∃ rest, sentence = c.tokens ++ rest ∧ g.Formed c ∧
      (∀ t ∈ c.tokens.head?, ∀ r, g.Opens t.tag r → ∀ u ∈ rest.head?,
        r.canContinue u.tag = false ∨ r.Full c.tokens.length) ∧ g.Greedy rest chunks := by
  constructor
  · rintro ⟨hflat, hformed, hends⟩
    obtain ⟨hc, hrest⟩ := List.forall_mem_cons.mp hformed
    obtain ⟨hnext, hchain⟩ := List.isChain_cons.mp hends
    refine ⟨chunks.flatMap Chunk.tokens, ?_, hc, fun t ht r hr u hu => ?_, rfl, hrest, hchain⟩
    · rw [← hflat, List.flatMap_cons]
    · rw [head?_flatMap_tokens hrest] at hu
      obtain ⟨next, hmem, hu⟩ := Option.bind_eq_some_iff.mp hu
      exact hnext next hmem t ht r hr u hu
  · rintro ⟨rest, rfl, hc, hends, rfl, hrest, hchain⟩
    refine ⟨List.flatMap_cons, List.forall_mem_cons.mpr ⟨hc, hrest⟩,
      List.isChain_cons.mpr ⟨fun next hmem t ht r hr u hu => ?_, hchain⟩⟩
    refine hends t ht r hr u ?_
    rw [head?_flatMap_tokens hrest, Option.mem_def.mp hmem]
    exact hu

/-- No tokens have no chunks. -/
theorem greedy_nil_iff : g.Greedy [] chunks ↔ chunks = [] := by
  cases chunks with
  | nil => exact ⟨fun _ => rfl, fun _ => ⟨rfl, by simp, List.IsChain.nil⟩⟩
  | cons c rest =>
    refine ⟨fun h => ?_, fun h => nomatch h⟩
    obtain ⟨_, heq, hc, -⟩ := greedy_cons_iff.mp h
    exact absurd (List.append_eq_nil_iff.mp heq.symm).1 hc.nonempty

/-- The first chunk where no rule can start is one token. -/
theorem greedy_cons_iff_of_opensNone (h : g.OpensNone t.tag) :
    g.Greedy (t :: rest) (c :: chunks) ↔ c = ⟨.other, [t]⟩ ∧ g.Greedy rest chunks := by
  rw [greedy_cons_iff]
  constructor
  · rintro ⟨rest', heq, hc, -, hrest⟩
    obtain ⟨kind, tokens⟩ := c
    obtain ⟨t', more, rfl⟩ := List.exists_cons_of_ne_nil hc.nonempty
    obtain ⟨rfl, htail⟩ := List.cons.inj heq
    obtain ⟨rfl, rfl⟩ := (formed_cons_iff_of_opensNone h).mp hc
    have hleft : rest = rest' := htail
    rw [hleft]
    exact ⟨rfl, hrest⟩
  · rintro ⟨rfl, hrest⟩
    refine ⟨rest, rfl, (formed_cons_iff_of_opensNone h).mpr ⟨rfl, rfl⟩, fun t' ht r hr => ?_, hrest⟩
    cases ht
    exact absurd h hr.not_opensNone

/-- The first chunk where a rule can start takes all that the rule can take. -/
theorem greedy_cons_iff_of_opens (h : g.Opens t.tag r) :
    g.Greedy (t :: rest) (c :: chunks) ↔ c = ⟨r.kind, t :: r.extension rest⟩ ∧
      g.Greedy (rest.drop (r.extension rest).length) chunks := by
  have hlongest := r.longest_extension rest
  rw [greedy_cons_iff]
  constructor
  · rintro ⟨left, heq, hc, hends, hrest⟩
    obtain ⟨kind, tokens⟩ := c
    obtain ⟨t', more, rfl⟩ := List.exists_cons_of_ne_nil hc.nonempty
    obtain ⟨rfl, htail⟩ := List.cons.inj heq
    obtain ⟨rfl, hcontinues, hadmits⟩ := (formed_cons_iff_of_opens h).mp hc
    have htaken : r.Longest more left := ⟨hcontinues, hadmits, hends t rfl r h⟩
    have hsplit : more ++ left =
        r.extension rest ++ rest.drop (r.extension rest).length := by
      rw [r.extension_append_drop]
      exact htail.symm
    obtain ⟨rfl, rfl⟩ := htaken.unique hlongest hsplit
    exact ⟨rfl, hrest⟩
  · rintro ⟨rfl, hrest⟩
    refine ⟨rest.drop (r.extension rest).length, ?_, ?_, fun t' ht r' hr => ?_, hrest⟩
    · rw [List.cons_append, r.extension_append_drop]
    · exact (formed_cons_iff_of_opens h).mpr ⟨rfl, hlongest.continues, hlongest.admits⟩
    · cases ht
      rw [← h.unique hr]
      exact hlongest.stops

/-- The chunks of a sentence are its greedy segmentation, and there is no other one. -/
theorem greedy_iff_eq_segment (g : ChunkGrammar) :
    ∀ (sentence : List TaggedToken) {chunks : List Chunk},
      g.Greedy sentence chunks ↔ chunks = g.segment sentence
  | [], _ => by rw [greedy_nil_iff, segment]
  | t :: rest, [] => by
    rw [segment]
    refine ⟨fun h => ?_, fun h => ?_⟩
    · cases h.flatMap_tokens
    · split at h <;> cases h
  | t :: rest, c :: chunks => by
    rw [segment]
    split
    · next h =>
      rw [greedy_cons_iff_of_opensNone (opener?_eq_none_iff.mp h), greedy_iff_eq_segment g rest,
        List.cons.injEq]
    · next r h =>
      rw [greedy_cons_iff_of_opens (opener?_eq_some_iff.mp h),
        greedy_iff_eq_segment g (rest.drop (r.extension rest).length), List.cons.injEq]
termination_by sentence => sentence.length
decreasing_by
  all_goals simp only [List.length_cons, List.length_drop]
  all_goals omega

end ChunkGrammar

namespace Chunker

/-- Chunking always succeeds: the chunks hold the tokens in their order. -/
theorem chunk_eq_ok (c : Chunker) (sentence : List TaggedToken) :
    c.chunk sentence = .ok ⟨c.grammar.segment sentence⟩ := by
  have htokens : (⟨c.grammar.segment sentence⟩ : ShallowTree).tokens = sentence :=
    c.grammar.flatMap_tokens_segment sentence
  unfold chunk
  simp only [ShallowTree.positions, htokens, if_true]

/-- The chunker gives every sentence its greedy segmentation, which is the only one. -/
theorem chunk_greedy (c : Chunker) (sentence : List TaggedToken) :
    ∃ tree, c.chunk sentence = .ok tree ∧
      ∀ chunks, c.grammar.Greedy sentence chunks ↔ chunks = tree.chunks := by
  refine ⟨_, c.chunk_eq_ok sentence, fun chunks => ?_⟩
  exact c.grammar.greedy_iff_eq_segment sentence

end Chunker

end ShallowTransfer
