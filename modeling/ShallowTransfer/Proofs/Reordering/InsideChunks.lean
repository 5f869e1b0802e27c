import ShallowTransfer.Proofs.Reordering.LeftmostGreedy
import ShallowTransfer.Proofs.Reordering.Tracing

/-!
Token rules that match inside of single chunks. The row of tokens runs over all groups, but a match
of such a rule never reaches from one group into the next, so the row is cut as if each group were
cut on its own (`cutRow_append`), nothing is fused, and a pass is a change of each group for itself
(`apply_of_singleChunk`). A chunk rule sees the kinds and the claims of the groups, which this
change leaves as they are, and so the two passes may change places (`apply_comm_of_singleChunk`).
-/

namespace ShallowTransfer

variable {α : Type}

/-- A row is cut on both sides of a border on its own, if no span of it that fits has elements of
both sides. -/
theorem cutRow_append {k : Nat} {fits : List α → Bool} {p : α → Prop} : ∀ {xs ys : List α},
    (∀ x ∈ xs, p x) → (∀ y ∈ ys, ¬ p y) →
      (∀ span, span.Sublist (xs ++ ys) → fits span = true →
        (∀ x ∈ span, p x) ∨ ∀ x ∈ span, ¬ p x) →
      cutRow k fits (xs ++ ys) = cutRow k fits xs ++ cutRow k fits ys
  | [], ys, _, _, _ => by rw [cutRow, List.nil_append, List.nil_append]
  | x :: rest, ys, hxs, hys, hspans => by
    have hrest : ∀ n, (rest.drop n ++ ys).Sublist (x :: rest ++ ys) := fun n =>
      ((List.drop_sublist n rest).trans (List.sublist_cons_self x rest)).append_right ys
    have hcut : ∀ n, cutRow k fits (rest.drop n ++ ys) =
        cutRow k fits (rest.drop n) ++ cutRow k fits ys := fun n =>
      cutRow_append (fun y hy => hxs y (List.mem_cons_of_mem _ (List.mem_of_mem_drop hy))) hys
        fun span hspan => hspans span (hspan.trans (hrest n))
    rw [List.cons_append, cutRow, cutRow]
    by_cases hk : k ≤ rest.length
    · have hlong : k ≤ (rest ++ ys).length := by rw [List.length_append]; omega
      rw [List.take_append_of_le_length hk, List.drop_append_of_le_length hk, hcut k,
        Nat.ble_eq.mpr hk, Nat.ble_eq.mpr hlong]
      split
      · rfl
      · exact congrArg (Piece.kept x :: ·) (hcut 0)
    · -- the span would reach from the first element of the row over the border
      have hover : ¬ (Nat.ble k (rest ++ ys).length && fits (x :: (rest ++ ys).take k)) = true := by
        intro h
        rw [Bool.and_eq_true, Nat.ble_eq, List.length_append] at h
        obtain ⟨y, more, rfl⟩ := List.exists_cons_of_length_pos (l := ys) (by omega)
        have hy : y ∈ (rest ++ y :: more).take k := by
          rw [List.take_append, List.take_cons (by omega)]
          simp
        rcases hspans _ ((List.take_sublist k _).cons_cons x) h.2 with hall | hnone
        · exact hys y List.mem_cons_self (hall y (List.mem_cons_of_mem _ hy))
        · exact hnone x List.mem_cons_self (hxs x List.mem_cons_self)
      have hshort : ¬ (Nat.ble k rest.length && fits (x :: rest.take k)) = true := by
        rw [Bool.and_eq_true, Nat.ble_eq]
        exact fun h => hk h.1
      rw [if_neg hover, if_neg hshort]
      exact congrArg (Piece.kept x :: ·) (hcut 0)
termination_by xs => xs.length
decreasing_by
  simp only [List.length_cons, List.length_drop]
  omega

/-! ### Groups that keep their sizes -/

/-- Groups take back the slots of groups that differ from them in nothing but the slots. -/
theorem refill_slotsIn_map {f : Group → Group} (hf : ∀ g, f g = { g with slots := (f g).slots })
    (hlen : ∀ g, (f g).slots.length = g.slots.length) :
    ∀ groups : List Group, refill groups (slotsIn (groups.map f)) = groups.map f
  | [] => rfl
  | g :: rest => by
    rw [List.map_cons, slotsIn_cons, refill, ← hlen g, List.take_left, List.drop_left,
      refill_slotsIn_map hf hlen rest, ← hf g]

/-- Where no group is joined with the one before it, groups stay as they are. -/
theorem fuseFrom_of_not_joined {joined : Nat → Bool} (h : ∀ index, joined index = false) :
    ∀ (index : Nat) (groups : List Group),
      fuseFrom joined index groups = groups.map fun g => (false, g)
  | _, [] => rfl
  | index, g :: rest => by
    rw [fuseFrom, fuseFrom_of_not_joined h (index + 1) rest, h index, List.map_cons]
    cases rest <;> rfl

namespace SyntacticRule

/-! ### Matches inside of groups -/

variable (r : SyntacticRule) (matchers : List TagMatcher)

/-- Whether slots of one group of the kind match the tags of a pattern one by one. -/
def fitsSlots (kind : ChunkKind) (span : List Slot) : Bool :=
  (span.zip matchers).all fun e =>
    !e.1.claimed && e.2.accepts e.1.token.tag && r.allows kind

/-- A group whose slots a token rule has cut and moved as if there were no other groups. -/
def reorderInside (g : Group) : Group :=
  let pieces := cutRow (r.pattern.size - 1) (r.fitsSlots matchers g.kind) g.slots
  { g with slots := pieces.flatMap (movePiece r.order id Slot.claim) }

theorem fitsPlaces_map (owner : Nat) (kind : ChunkKind) (span : List Slot) :
    r.fitsPlaces matchers (span.map fun s => ⟨s, owner, kind⟩) =
      r.fitsSlots matchers kind span := by
  have hsame : ((spanOwners (span.map fun s => (⟨s, owner, kind⟩ : Place))).all
      fun e => e.1 = e.2) = true := by
    refine spanOwners_of_same owner fun p hp => ?_
    obtain ⟨s, -, rfl⟩ := List.mem_map.mp hp
    rfl
  rw [fitsPlaces, hsame, Bool.or_true, Bool.and_true, List.zip_map_left, List.all_map]
  rfl

theorem length_reorderInside (g : Group) :
    (r.reorderInside matchers g).slots.length = g.slots.length := by
  have hperm : ((r.reorderInside matchers g).slots.map Slot.token).Perm
      (g.slots.map Slot.token) :=
    r.map_movePiece_perm (by intro _; rfl) (by intro _; rfl)
  have hlen := hperm.length_eq
  rwa [List.length_map, List.length_map] at hlen

variable {r matchers}

/-- The slots of one group are cut and moved in the same way wherever the group stands. -/
theorem flatMap_moveSlots_group (owner : Nat) (g : Group) :
    (cutRow (r.pattern.size - 1) (r.fitsPlaces matchers)
      (g.slots.map fun s => ⟨s, owner, g.kind⟩)).flatMap r.moveSlots =
        (r.reorderInside matchers g).slots := by
  have hmoved : ∀ pieces : List (Piece Slot),
      (pieces.map (Piece.map fun s => (⟨s, owner, g.kind⟩ : Place))).flatMap
        (movePiece r.order Place.slot fun p => p.slot.claim) =
          (pieces.flatMap (movePiece r.order id Slot.claim)).map id :=
    flatMap_movePiece_map (by intro _; rfl) (by intro _; rfl)
  rw [cutRow_map, funext (r.fitsPlaces_map matchers owner g.kind), funext r.moveSlots_eq, hmoved,
    List.map_id]
  rfl

/-- A span of a sorted row that fits a rule for single chunks lies in one group. -/
theorem owner_eq_of_fitsPlaces (hsingle : r.singleChunk = true) {span : List Place}
    (hsorted : span.Pairwise fun p q => p.owner ≤ q.owner)
    (hfits : r.fitsPlaces matchers span = true) : ∃ owner, ∀ p ∈ span, p.owner = owner := by
  cases hspan : span with
  | nil => exact ⟨0, by simp⟩
  | cons p rest =>
    rw [← hspan]
    refine (all_spanOwners_iff (by simp [hspan]) hsorted).mp ?_
    rw [fitsPlaces, hsingle, Bool.not_true, Bool.false_or, Bool.and_eq_true] at hfits
    exact hfits.2

/-- The row of a rule for single chunks is cut and moved group by group. -/
theorem flatMap_moveSlots_of_singleChunk (hsingle : r.singleChunk = true) :
    ∀ (owner : Nat) (groups : List Group),
      (cutRow (r.pattern.size - 1) (r.fitsPlaces matchers) (placesFrom owner groups)).flatMap
          r.moveSlots =
        slotsIn (groups.map (r.reorderInside matchers))
  | owner, [] => by
    rw [placesFrom, cutRow]
    rfl
  | owner, g :: rest => by
    have happart : ∀ span : List Place, span.Sublist (placesFrom owner (g :: rest)) →
        r.fitsPlaces matchers span = true →
          (∀ p ∈ span, p.owner = owner) ∨ ∀ p ∈ span, ¬ p.owner = owner := by
      intro span hspan hfits
      obtain ⟨o, ho⟩ :=
        owner_eq_of_fitsPlaces hsingle ((pairwise_owner owner (g :: rest)).sublist hspan) hfits
      by_cases howner : o = owner
      · exact .inl fun p hp => (ho p hp).trans howner
      · exact .inr fun p hp h => howner ((ho p hp).symm.trans h)
    have hcut : cutRow (r.pattern.size - 1) (r.fitsPlaces matchers) (placesFrom owner (g :: rest)) =
        cutRow (r.pattern.size - 1) (r.fitsPlaces matchers)
            (g.slots.map fun s => ⟨s, owner, g.kind⟩) ++
          cutRow (r.pattern.size - 1) (r.fitsPlaces matchers) (placesFrom (owner + 1) rest) := by
      refine cutRow_append (p := fun p : Place => p.owner = owner) (fun p hp => ?_)
        (fun p hp h => ?_) happart
      · obtain ⟨s, -, rfl⟩ := List.mem_map.mp hp
        rfl
      · have := le_owner_of_mem hp
        omega
    rw [hcut, List.flatMap_append, flatMap_moveSlots_group,
      flatMap_moveSlots_of_singleChunk hsingle (owner + 1) rest, List.map_cons, slotsIn_cons]

/-- A rule for single chunks joins no groups. -/
theorem joins_of_singleChunk (hsingle : r.singleChunk = true) (groups : List Group) (index : Nat) :
    joins (hits (r.placePieces matchers groups)) index = false := by
  rw [joins, List.any_eq_false]
  intro span hspan hover
  have hfits := (hit_of_mem_cutRow (mem_hits.mp hspan)).2
  rw [fitsPlaces, hsingle, Bool.not_true, Bool.false_or, Bool.and_eq_true] at hfits
  cases howners : spanOwners span with
  | none => simp [howners] at hover
  | some e =>
    have heq : e.1 = e.2 := by simpa [howners] using hfits.2
    have hbetween : e.1 < index ∧ index ≤ e.2 := by simpa [howners] using hover
    omega

/-- A pass of a rule for single chunks changes each group for itself. -/
theorem apply_of_singleChunk (hpattern : r.pattern = .tokens matchers)
    (hsingle : r.singleChunk = true) (groups : List Group) :
    r.apply groups = groups.map (r.reorderInside matchers) := by
  have hsize := length_of_tokens hpattern
  simp only [apply, hpattern]
  rw [fuseFrom_of_not_joined (joins_of_singleChunk hsingle groups), List.map_map]
  simp only [Function.comp_def, List.map_id']
  rw [placePieces, hsize, flatMap_moveSlots_of_singleChunk hsingle]
  exact refill_slotsIn_map (by intro _; rfl) (r.length_reorderInside matchers) groups

/-! ### Chunk rules -/

/-- A pass of a chunk rule does not see what becomes of the slots inside of groups. -/
theorem apply_map_of_chunks {c : SyntacticRule} {kinds : List ChunkKind}
    (hpattern : c.pattern = .chunks kinds) {f : Group → Group} (hkind : ∀ g, (f g).kind = g.kind)
    (hclaimed : ∀ g, (f g).claimed = g.claimed) (hclaim : ∀ g : Group, f g.claim = (f g).claim)
    (groups : List Group) : c.apply (groups.map f) = (c.apply groups).map f := by
  have hfits : ∀ span : List Group, fitsGroups kinds (span.map f) = fitsGroups kinds span := by
    intro span
    rw [fitsGroups, List.zip_map_left, List.all_map]
    simp only [Function.comp_def, Prod.map_fst, Prod.map_snd, hkind, hclaimed, id_eq]
    rfl
  rw [c.apply_of_chunks _ hpattern, c.apply_of_chunks _ hpattern, groupPieces, cutRow_map,
    funext hfits, funext c.moveGroups_eq]
  exact flatMap_movePiece_map (by intro _; rfl) (fun g => (hclaim g).symm) _

/-- A pass of a chunk rule and one of a rule for single chunks may change places. -/
theorem apply_comm_of_singleChunk {c t : SyntacticRule} (hc : c.level = .chunk)
    (ht : t.level = .token) (hsingle : t.singleChunk = true) (groups : List Group) :
    t.apply (c.apply groups) = c.apply (t.apply groups) := by
  cases hcp : c.pattern with
  | tokens _ => simp [level, hcp, Pattern.level] at hc
  | chunks kinds =>
    cases htp : t.pattern with
    | chunks _ => simp [level, htp, Pattern.level] at ht
    | tokens matchers =>
      rw [apply_of_singleChunk htp hsingle, apply_of_singleChunk htp hsingle]
      exact (apply_map_of_chunks hcp (by intro _; rfl) (by intro _; rfl) (by intro _; rfl)
        groups).symm

end SyntacticRule

/-! ### Runs -/

namespace SyntacticTransfer

theorem run_append (rules more : List SyntacticRule) (groups : List Group) :
    run (rules ++ more) groups = run more (run rules groups) :=
  List.foldl_append

/-- Neighbours in the list of rules: a chunk rule and a token rule for single chunks give the same
tree in either order, whatever rules stand before and after them. -/
theorem transfer_comm_of_singleChunk {c t : SyntacticRule} (hc : c.level = .chunk)
    (ht : t.level = .token) (hsingle : t.singleChunk = true) (before after : List SyntacticRule)
    (tree : ShallowTree) :
    ∃ output, transfer ⟨before ++ [c, t] ++ after⟩ tree = .ok output ∧
      transfer ⟨before ++ [t, c] ++ after⟩ tree = .ok output := by
  refine ⟨_, transfer_eq_ok _ tree, ?_⟩
  have hpasses : run [c, t] (run before (start tree)) = run [t, c] (run before (start tree)) :=
    SyntacticRule.apply_comm_of_singleChunk hc ht hsingle _
  rw [transfer_eq_ok]
  simp only [run_append, hpasses]

/-- A rule that puts the object before the verb. -/
def objectFirst : SyntacticRule :=
  ⟨"object first", .chunks [.verbPhrase, .nounPhrase], [1, 0], [], false, by decide⟩

/-- A rule that puts an adjective before the noun on its left, in one chunk with it. -/
def adjectiveInside : SyntacticRule :=
  ⟨"adjective inside", .tokens [.whole "n", .whole "a"], [1, 0], [.nounPhrase, .verbPhrase], true,
    by decide⟩

/-- Two phrases with a noun at the end of the first one and an adjective at the start of the second
one. -/
def twoPhrases : ShallowTree :=
  ⟨[⟨.verbPhrase, [⟨⟨"tiene", 0⟩, "v", .lexicon⟩, ⟨⟨"casa", 1⟩, "n", .lexicon⟩]⟩,
    ⟨.nounPhrase, [⟨⟨"gran", 2⟩, "a", .lexicon⟩, ⟨⟨"puerta", 3⟩, "n", .lexicon⟩,
      ⟨⟨"roja", 4⟩, "a", .lexicon⟩]⟩]⟩

/-- The phrases change places and the adjective moves inside of its phrase, in either order of the
rules. -/
theorem transfer_comm_of_singleChunk_twoPhrases :
    objectFirst.level = .chunk ∧ adjectiveInside.level = .token ∧
      adjectiveInside.singleChunk = true ∧
      ∃ output, output.render = "(S (NP gran/a roja/a puerta/n) (VP tiene/v casa/n))" ∧
        transfer ⟨[objectFirst, adjectiveInside]⟩ twoPhrases = .ok output ∧
        transfer ⟨[adjectiveInside, objectFirst]⟩ twoPhrases = .ok output := by
  obtain ⟨output, hfirst, hsecond⟩ := transfer_comm_of_singleChunk (c := objectFirst)
    (t := adjectiveInside) rfl rfl rfl [] [] twoPhrases
  refine ⟨rfl, rfl, rfl, output, ?_, hfirst, hsecond⟩
  rw [transfer_eq_ok, Except.ok.injEq] at hfirst
  rw [← hfirst]
  decide +kernel

end SyntacticTransfer

end ShallowTransfer
