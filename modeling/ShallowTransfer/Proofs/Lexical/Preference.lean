import Mathlib.Data.List.Induction
import ShallowTransfer.Proofs.Lexical.Ranks

/-!
The preference between entries. An entry precedes another one for a tag if its tier is less, or its
rank within the same tier (`Precedes`). One more entry changes a lookup only where its conditions
hold and it precedes what was found before (`best?_usables_concat`). So after any entries a lookup
finds the first of those that no other one precedes (`Taken`), and nothing only where no conditions
hold (`lookup_by_preference`).
-/

namespace ShallowTransfer

namespace Entry

variable {tag : Tag} {prev next : Option Tag} {a b c e : Entry} {es : List Entry}

/-! ### Conditions on the neighbours -/

/-- The conditions of an entry hold: a neighbour that one of them is about is there, and has a tag
that the condition accepts. -/
def ContextHolds (e : Entry) (prev next : Option Tag) : Prop :=
  (∀ m ∈ e.prev, ∃ t ∈ prev, m.accepts t = true) ∧ ∀ m ∈ e.next, ∃ t ∈ next, m.accepts t = true

theorem conditionHolds_iff {condition : Option TagMatcher} {neighbour : Option Tag} :
    conditionHolds condition neighbour = true ↔
      ∀ m ∈ condition, ∃ t ∈ neighbour, m.accepts t = true := by
  cases condition <;> cases neighbour <;> simp [conditionHolds]

theorem usable_iff : e.usable prev next = true ↔ e.ContextHolds prev next := by
  rw [usable, Bool.and_eq_true, conditionHolds_iff, conditionHolds_iff, ContextHolds]

instance : Decidable (e.ContextHolds prev next) :=
  decidable_of_iff _ usable_iff

/-! ### Tiers and ranks -/

/-- Whether an entry is preferred to another one, whichever of them came first. -/
def Precedes (tag : Tag) (a b : Entry) : Prop :=
  a.tier tag < b.tier tag ∨ a.tier tag = b.tier tag ∧ a.rank < b.rank

instance : Decidable (Precedes tag a b) :=
  inferInstanceAs (Decidable (_ ∨ _))

theorem preferred_iff : preferred tag a b = true ↔ Precedes tag a b := by
  rw [preferred, Bool.or_eq_true, Bool.and_eq_true, Nat.blt_eq, Nat.beq_eq, Nat.blt_eq, Precedes,
    UInt32.lt_iff_toNat_lt]

theorem precedes_iff : Precedes tag a b ↔
    a.tier tag < b.tier tag ∨ a.tier tag = b.tier tag ∧ a.rank.toNat < b.rank.toNat := by
  rw [Precedes, UInt32.lt_iff_toNat_lt]

/-- No entry precedes one that precedes it. -/
theorem Precedes.asymm (h : Precedes tag a b) : ¬ Precedes tag b a := by
  rw [precedes_iff] at *
  omega

/-- What precedes an entry precedes all that do not precede this one. -/
theorem Precedes.trans_not (hab : Precedes tag a b) (hcb : ¬ Precedes tag c b) :
    Precedes tag a c := by
  rw [precedes_iff] at *
  omega

/-! ### The entry that is taken -/

/-- The first entry of a list whose conditions hold and that no other one with such conditions
precedes. -/
def Taken (tag : Tag) (prev next : Option Tag) (es : List Entry) (b : Entry) : Prop :=
  ∃ before after, es = before ++ b :: after ∧ b.ContextHolds prev next ∧
    (∀ a ∈ before, a.ContextHolds prev next → Precedes tag b a) ∧
    ∀ a ∈ after, a.ContextHolds prev next → ¬ Precedes tag a b

theorem Taken.not_precedes (h : Taken tag prev next es b) :
    ∀ a ∈ es, a.ContextHolds prev next → ¬ Precedes tag a b := by
  obtain ⟨before, after, rfl, -, hbefore, hafter⟩ := h
  intro a ha hcontext
  rcases List.mem_append.mp ha with ha | ha
  · exact (hbefore a ha hcontext).asymm
  · rcases List.mem_cons.mp ha with rfl | ha
    · exact fun h => h.asymm h
    · exact hafter a ha hcontext

/-- At most one entry is taken. -/
theorem Taken.unique (h : Taken tag prev next es b) (h' : Taken tag prev next es c) : b = c := by
  obtain ⟨before, after, rfl, hb, hbefore, hafter⟩ := h
  obtain ⟨before', after', heq, hc, hbefore', hafter'⟩ := h'
  rcases List.append_eq_append_iff.mp heq with ⟨more, rfl, hmore⟩ | ⟨more, rfl, hmore⟩
  · cases more with
    | nil => exact (List.cons.inj hmore).1
    | cons d more =>
      -- the second entry stands behind the first one, and would have to precede it
      obtain ⟨rfl, rfl⟩ := List.cons.inj hmore
      exact absurd (hbefore' b (by simp) hb) (hafter c (by simp) hc)
  · cases more with
    | nil => exact (List.cons.inj hmore).1.symm
    | cons d more =>
      obtain ⟨rfl, rfl⟩ := List.cons.inj hmore
      exact absurd (hbefore c (by simp) hc) (hafter' b (by simp) hb)

/-- What is found in a list: the entry that is taken, or nothing where no conditions hold. -/
def Finds (tag : Tag) (prev next : Option Tag) (es : List Entry) : Option Entry → Prop
  | some b => Taken tag prev next es b
  | none => ∀ e ∈ es, ¬ e.ContextHolds prev next

theorem Finds.eq_some_iff {found : Option Entry} (h : Finds tag prev next es found) :
    found = some b ↔ Taken tag prev next es b := by
  constructor
  · rintro rfl
    exact h
  · intro hb
    cases found with
    | none =>
      obtain ⟨before, after, rfl, hcontext, -⟩ := hb
      exact absurd hcontext (h b (by simp))
    | some c => rw [Taken.unique h hb]

theorem Finds.eq_none_iff {found : Option Entry} (h : Finds tag prev next es found) :
    found = none ↔ ∀ e ∈ es, ¬ e.ContextHolds prev next := by
  constructor
  · rintro rfl
    exact h
  · intro hnone
    cases found with
    | none => rfl
    | some c =>
      obtain ⟨before, after, rfl, hcontext, -⟩ := h
      exact absurd hcontext (hnone c (by simp))

/-- One more entry is found where its conditions hold and it precedes what was found before. -/
theorem Finds.concat {found : Option Entry} (h : Finds tag prev next es found) (e : Entry) :
    Finds tag prev next (es ++ [e])
      (if e.ContextHolds prev next ∧ ∀ b ∈ found, Precedes tag e b then some e else found) := by
  split
  · next hnew =>
    obtain ⟨hcontext, hprecedes⟩ := hnew
    refine ⟨es, [], rfl, hcontext, fun a ha hholds => ?_, by simp⟩
    cases found with
    | none => exact absurd hholds (h a ha)
    | some b => exact (hprecedes b rfl).trans_not (h.not_precedes a ha hholds)
  · next hold =>
    cases found with
    | none =>
      have hnot : ¬ e.ContextHolds prev next := fun hcontext => hold ⟨hcontext, by simp⟩
      intro a ha
      rcases List.mem_append.mp ha with ha | ha
      · exact h a ha
      · rwa [List.mem_singleton.mp ha]
    | some b =>
      obtain ⟨before, after, rfl, hcontext, hbefore, hafter⟩ := h
      refine ⟨before, after ++ [e], by simp, hcontext, hbefore, fun a ha hholds => ?_⟩
      rcases List.mem_append.mp ha with ha | ha
      · exact hafter a ha hholds
      · rw [List.mem_singleton.mp ha] at hholds ⊢
        exact fun hprecedes => hold ⟨hholds, by simpa using hprecedes⟩

/-- The entries of a list whose conditions hold. -/
def usables (prev next : Option Tag) (es : List Entry) : List Entry :=
  es.filter fun e => e.usable prev next

/-- The best of the entries whose conditions hold, when there is one more entry. -/
theorem best?_usables_concat (tag : Tag) (prev next : Option Tag) (es : List Entry) (e : Entry) :
    best? tag (usables prev next (es ++ [e])) =
      if e.ContextHolds prev next ∧ ∀ b ∈ best? tag (usables prev next es), Precedes tag e b then
        some e
      else best? tag (usables prev next es) := by
  by_cases hu : e.usable prev next = true
  · have hconcat : usables prev next (es ++ [e]) = usables prev next es ++ [e] := by
      simp [usables, hu]
    rw [hconcat, best?_concat]
    cases best? tag (usables prev next es) with
    | none => simp [usable_iff.mp hu]
    | some b =>
      simp only [better, preferred_iff, usable_iff.mp hu, Option.map_some, Option.getD_some,
        Option.mem_some_iff, forall_eq', true_and]
      split <;> rfl
  · have hsame : usables prev next (es ++ [e]) = usables prev next es := by
      simp [usables, hu]
    rw [hsame, if_neg fun h => hu (usable_iff.mpr h.1)]

/-- The best of the entries whose conditions hold is what is found. -/
theorem finds_best? (tag : Tag) (prev next : Option Tag) (es : List Entry) :
    Finds tag prev next es (best? tag (usables prev next es)) := by
  induction es using List.reverseRecOn with
  | nil => exact fun _ he => nomatch he
  | append_singleton es e ih =>
    rw [best?_usables_concat]
    exact ih.concat e

end Entry

namespace Dictionary

open Entry

/-! ### Lookups after insertions -/

/-- The dictionary with more entries, one after another. -/
def insertAll (d : Dictionary) (additions : List (String × Entry)) : Dictionary :=
  additions.foldl (fun d a => d.insert a.1 a.2) d

/-- The entries among some additions that a word gets, in any casing. -/
def addedTo (word : String) (additions : List (String × Entry)) : List Entry :=
  (additions.filter fun a => Text.lowercase a.1 = Text.lowercase word).map (·.2)

theorem get_insertAll (word : String) (additions : List (String × Entry)) : ∀ d : Dictionary,
    (d.insertAll additions).get word = d.get word ++ addedTo word additions := by
  induction additions with
  | nil => exact fun d => (List.append_nil _).symm
  | cons a rest ih =>
    intro d
    have hstep : (d.insertAll (a :: rest)).get word =
        (d.insert a.1 a.2).get word ++ addedTo word rest := ih _
    rw [hstep, get_insert]
    split
    · next h => simp [addedTo, h]
    · next h => simp [addedTo, h]

theorem lookup_eq_best? (d : Dictionary) (word : String) (tag : Tag) (prev next : Option Tag) :
    d.lookup word tag prev next = best? tag (usables prev next (d.get word)) :=
  rfl

end Dictionary

end ShallowTransfer
