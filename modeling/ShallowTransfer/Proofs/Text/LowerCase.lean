import ShallowTransfer.Proofs.Text.Trim
import ShallowTransfer.Text.Case

/-!
Lower case forms are final: a text in lower case stays as it is (`lowercase_lowercase`). This is a
property of the tables, read off their runs: the forms that a run gives make up a run again, and
none of these meets a character with a lower case form of its own (`images_apart`). The same check
tells that no form is white space or a mark of matchers, so lower case keeps the ends of a text
(`trimmed_lowerAfter`). Whether two tables have a character in common is decided on numbers whose
bits are their code points (`apart_iff`).
-/

namespace ShallowTransfer.Text

/-! ### Runs without common characters -/

theorem CharRun.covers_iff {r : CharRun} {n : Nat} :
    r.covers n = true ↔ r.first ≤ n ∧ n ≤ r.last ∧ (n - r.first) % r.step = 0 := by
  simp only [covers, Bool.and_eq_true, Nat.ble_eq, Nat.beq_eq, and_assoc]

/-- The code points of a run, as the bits of a number. -/
def CharRun.bits (r : CharRun) : Nat :=
  (Nat.ofBits fun i : Fin (r.last + 1 - r.first) => Nat.beq (i % r.step) 0) <<< r.first

theorem CharRun.testBit_bits (r : CharRun) (n : Nat) : r.bits.testBit n = r.covers n := by
  rw [Bool.eq_iff_iff, covers_iff, bits, Nat.testBit_shiftLeft, Bool.and_eq_true, decide_eq_true_eq]
  refine and_congr_right fun hfirst => ?_
  by_cases hlast : n ≤ r.last
  · rw [Nat.testBit_ofBits_lt _ _ (by omega), Nat.beq_eq]
    exact (and_iff_right hlast).symm
  · rw [Nat.testBit_ofBits_ge _ _ (by omega)]
    exact iff_of_false Bool.false_ne_true fun h => hlast h.1

/-- The code points on the runs of a table, as the bits of a number. -/
def tableBits (runs : List CharRun) : Nat :=
  runs.foldr (fun r bits => r.bits ||| bits) 0

theorem testBit_tableBits (runs : List CharRun) (n : Nat) :
    (tableBits runs).testBit n = runs.any fun r => r.covers n := by
  induction runs with
  | nil => exact Nat.zero_testBit n
  | cons r runs ih =>
    have hsplit : tableBits (r :: runs) = r.bits ||| tableBits runs := rfl
    rw [hsplit, Nat.testBit_or, CharRun.testBit_bits, ih, List.any_cons]

/-- No code point is on runs of both tables. -/
def Apart (rs ss : List CharRun) : Prop :=
  ∀ r ∈ rs, ∀ s ∈ ss, ∀ n, r.covers n = true → s.covers n = false

theorem apart_iff {rs ss : List CharRun} : Apart rs ss ↔ tableBits rs &&& tableBits ss = 0 := by
  constructor
  · intro hapart
    refine Nat.eq_of_testBit_eq fun n => ?_
    rw [Nat.zero_testBit, Nat.testBit_and, testBit_tableBits, testBit_tableBits]
    refine Bool.eq_false_iff.mpr fun hboth => ?_
    rw [Bool.and_eq_true, List.any_eq_true, List.any_eq_true] at hboth
    obtain ⟨⟨r, hr, hrn⟩, s, hs, hsn⟩ := hboth
    rw [hapart r hr s hs n hrn] at hsn
    cases hsn
  · intro hbits r hr s hs n hn
    have hbit : (tableBits rs &&& tableBits ss).testBit n = false := by
      rw [hbits, Nat.zero_testBit]
    rw [Nat.testBit_and, testBit_tableBits, testBit_tableBits,
      List.any_eq_true.mpr ⟨r, hr, hn⟩, Bool.true_and, List.any_eq_false] at hbit
    exact Bool.eq_false_iff.mpr (hbit s hs)

-- whole tables are compared at once, so the runs need not be taken in pairs
instance (rs ss : List CharRun) : Decidable (Apart rs ss) :=
  decidable_of_iff _ apart_iff.symm

/-! ### Characters off all runs -/

/-- A character on no run of a mapping keeps its form. -/
theorem shiftCase_of_not_covers {runs : List CaseRun} {c : Char}
    (h : ∀ r ∈ runs, r.run.covers c.toNat = false) : shiftCase runs c = c := by
  have hfind : (runs.find? fun r => r.run.covers c.toNat) = none :=
    List.find?_eq_none.mpr fun r hr => Bool.eq_false_iff.mp (h r hr)
  simp only [shiftCase, hfind]

/-- A code point that is none of the entries has no expansion. -/
theorem lookup_eq_none_of_not_covers {table : List (Nat × List Nat)} {n : Nat}
    (h : ∀ entry ∈ table, (⟨entry.1, entry.1, 1⟩ : CharRun).covers n = false) :
    table.lookup n = none := by
  rw [List.lookup_eq_none_iff]
  intro entry hentry
  rw [bne_iff_ne]
  intro heq
  refine Bool.eq_false_iff.mp (h entry hentry) ?_
  exact CharRun.covers_iff.mpr ⟨Nat.le_of_eq heq.symm, Nat.le_of_eq heq, Nat.mod_one _⟩

/-! ### The table of lower case forms -/

/-- The run of the forms that a run gives. -/
def CaseRun.image (r : CaseRun) : CharRun :=
  ⟨(r.run.first + r.shift).toNat, (r.run.last + r.shift).toNat, r.run.step⟩

theorem CaseRun.image_covers {r : CaseRun} {n : Nat} (hfirst : 0 ≤ r.run.first + r.shift)
    (hn : r.run.covers n = true) : r.image.covers (n + r.shift).toNat = true := by
  obtain ⟨hle, hge, hmod⟩ := CharRun.covers_iff.mp hn
  have hsub : (n + r.shift).toNat - (r.run.first + r.shift).toNat = n - r.run.first := by omega
  refine CharRun.covers_iff.mpr ⟨?_, ?_, ?_⟩
  · simp only [image]
    omega
  · simp only [image]
    omega
  · simpa only [image, hsub] using hmod

/-- The runs that lower case forms stay away from: characters with a lower case form of their own,
white space and the marks of matchers. -/
def unsettledRuns : List CharRun :=
  lowerShifts.map CaseRun.run ++ blankRuns ++
    (lowerExpansions.map Prod.fst ++ [capitalSigma.toNat, '='.toNat, '*'.toNat]).map
      fun n => ⟨n, n, 1⟩

/-- The character is on none of the runs that lower case forms stay away from. -/
def Settled (c : Char) : Prop :=
  inRuns unsettledRuns c = false

instance (c : Char) : Decidable (Settled c) :=
  inferInstanceAs (Decidable (inRuns unsettledRuns c = false))

theorem lowerShifts_nonneg :
    (lowerShifts.all fun r => decide (0 ≤ r.run.first + r.shift)) = true := by
  decide

theorem images_apart : Apart (lowerShifts.map CaseRun.image) unsettledRuns := by
  decide +kernel

theorem expansions_settled :
    (lowerExpansions.all fun entry =>
      !entry.2.isEmpty && (ofCodePoints entry.2).all fun c => !inRuns unsettledRuns c) = true := by
  decide

theorem not_covers_of_settled {c : Char} {r : CharRun} (hc : Settled c)
    (hr : r ∈ unsettledRuns) : r.covers c.toNat = false := by
  have hnone := List.any_eq_false.mp hc r hr
  exact Bool.eq_false_iff.mpr hnone

theorem toNat_ofNat (n : Nat) : (Char.ofNat n).toNat = n ∨ Char.ofNat n = Char.ofNat 0 := by
  by_cases h : n.isValidChar
  · left
    unfold Char.ofNat
    rw [dif_pos h]
    rfl
  · right
    unfold Char.ofNat
    rw [dif_neg h]
    rfl

/-- The form that a run of the table gives is off the runs of a table that such forms stay away
from. -/
theorem inRuns_apply {runs : List CharRun} (hzero : inRuns runs (Char.ofNat 0) = false)
    (hapart : Apart (lowerShifts.map CaseRun.image) runs) {r : CaseRun} (hr : r ∈ lowerShifts)
    {c : Char} (hc : r.run.covers c.toNat = true) : inRuns runs (r.apply c) = false := by
  rcases toNat_ofNat (c.toNat + r.shift).toNat with heq | hnone
  · have hnonneg := List.all_eq_true.mp lowerShifts_nonneg r hr
    rw [decide_eq_true_eq] at hnonneg
    refine List.any_eq_false.mpr fun s hs => Bool.eq_false_iff.mp ?_
    rw [CaseRun.apply, heq]
    exact hapart _ (List.mem_map_of_mem hr) s hs _ (CaseRun.image_covers hnonneg hc)
  · -- no character has this code point, and another one stands in for it
    rw [CaseRun.apply, hnone, hzero]

/-- The form that a run of the table gives is settled. -/
theorem settled_apply {r : CaseRun} (hr : r ∈ lowerShifts) {c : Char}
    (hc : r.run.covers c.toNat = true) : Settled (r.apply c) :=
  inRuns_apply (by decide) images_apart hr hc

/-! ### Single characters -/

/-- A character is its own lower case form, or one of the two tables gives the form. -/
theorem lowerChar_eq (c : Char) :
    lowerChar c = [c] ∨
      (∃ entry ∈ lowerExpansions, lowerChar c = ofCodePoints entry.2) ∨
      ∃ r ∈ lowerShifts, r.run.covers c.toNat = true ∧ lowerChar c = [r.apply c] := by
  unfold lowerChar
  split
  · next points hlookup =>
    obtain ⟨front, back, hsplit, -⟩ := List.lookup_eq_some_iff.mp hlookup
    exact .inr (.inl ⟨(c.toNat, points), by rw [hsplit]; simp, rfl⟩)
  · unfold shiftCase
    split
    · next r hfind =>
      have hcovers := List.find?_some hfind
      exact .inr (.inr ⟨r, List.mem_of_find?_eq_some hfind, hcovers, rfl⟩)
    · exact .inl rfl

/-- A character is its own lower case form, or its form is made of settled characters. -/
theorem lowerChar_cases (c : Char) :
    lowerChar c = [c] ∨ lowerChar c ≠ [] ∧ ∀ d ∈ lowerChar c, Settled d := by
  rcases lowerChar_eq c with hself | ⟨entry, hentry, hform⟩ | ⟨r, hr, hcovers, hform⟩
  · exact Or.inl hself
  · have hcheck := List.all_eq_true.mp expansions_settled entry hentry
    simp only [Bool.and_eq_true, Bool.not_eq_true', List.isEmpty_eq_false_iff,
      List.all_eq_true] at hcheck
    rw [hform]
    refine Or.inr ⟨?_, hcheck.2⟩
    simpa [ofCodePoints] using hcheck.1
  · rw [hform]
    refine Or.inr ⟨List.cons_ne_nil _ _, fun d hd => ?_⟩
    rw [List.mem_singleton.mp hd]
    exact settled_apply hr hcovers

theorem lowerChar_of_settled {c : Char} (hc : Settled c) : lowerChar c = [c] := by
  have hlookup : lowerExpansions.lookup c.toNat = none := by
    refine lookup_eq_none_of_not_covers fun entry hentry => not_covers_of_settled hc ?_
    unfold unsettledRuns
    refine List.mem_append_right _ (List.mem_map.mpr ⟨entry.1, ?_, rfl⟩)
    exact List.mem_append_left _ (List.mem_map_of_mem hentry)
  have hshift : shiftCase lowerShifts c = c := by
    refine shiftCase_of_not_covers fun r hr => not_covers_of_settled hc ?_
    unfold unsettledRuns
    exact List.mem_append_left _ (List.mem_append_left _ (List.mem_map_of_mem hr))
  rw [lowerChar, hlookup]
  simp only [hshift]

theorem not_isBlank_of_settled {c : Char} (hc : Settled c) : isBlank c = false := by
  refine List.any_eq_false.mpr fun r hr => Bool.eq_false_iff.mp (not_covers_of_settled hc ?_)
  unfold unsettledRuns
  exact List.mem_append_left _ (List.mem_append_right _ hr)

theorem settled_smallSigma (before after : List Char) : Settled (smallSigma before after) := by
  unfold smallSigma
  split <;> decide

/-- The character is its own lower case form in every place. -/
def Fixed (c : Char) : Prop :=
  c ≠ capitalSigma ∧ lowerChar c = [c]

theorem fixed_of_settled {c : Char} (hc : Settled c) : Fixed c := by
  refine ⟨?_, lowerChar_of_settled hc⟩
  rintro rfl
  exact absurd hc (by decide)

/-! ### Texts -/

/-- The form of a character between the characters before and after it. -/
def lowerAt (before : List Char) (c : Char) (after : List Char) : List Char :=
  if c = capitalSigma then [smallSigma before after] else lowerChar c

theorem lowerAfter_cons (before : List Char) (c : Char) (after : List Char) :
    lowerAfter before (c :: after) = lowerAt before c after ++ lowerAfter (c :: before) after :=
  rfl

theorem lowerAt_of_fixed {c : Char} (hc : Fixed c) (before after : List Char) :
    lowerAt before c after = [c] := by
  rw [lowerAt, if_neg hc.1, hc.2]

theorem lowerAt_cases (before : List Char) (c : Char) (after : List Char) :
    Fixed c ∨ lowerAt before c after ≠ [] ∧ ∀ d ∈ lowerAt before c after, Settled d := by
  unfold lowerAt
  split
  · right
    refine ⟨List.cons_ne_nil _ _, fun d hd => ?_⟩
    rw [List.mem_singleton.mp hd]
    exact settled_smallSigma before after
  · next hsigma =>
    rcases lowerChar_cases c with hself | hsettled
    · exact Or.inl ⟨hsigma, hself⟩
    · exact Or.inr hsettled

theorem lowerAt_ne_nil (before : List Char) (c : Char) (after : List Char) :
    lowerAt before c after ≠ [] := by
  rcases lowerAt_cases before c after with hfixed | hsettled
  · rw [lowerAt_of_fixed hfixed]
    exact List.cons_ne_nil _ _
  · exact hsettled.1

theorem eq_or_settled_of_mem_lowerAt {before after : List Char} {c d : Char}
    (hd : d ∈ lowerAt before c after) : d = c ∧ Fixed c ∨ Settled d := by
  rcases lowerAt_cases before c after with hfixed | hsettled
  · rw [lowerAt_of_fixed hfixed] at hd
    exact Or.inl ⟨List.mem_singleton.mp hd, hfixed⟩
  · exact Or.inr (hsettled.2 d hd)

theorem lowerAfter_of_fixed : ∀ (before : List Char) {cs : List Char},
    (∀ c ∈ cs, Fixed c) → lowerAfter before cs = cs
  | _, [], _ => rfl
  | before, c :: after, h => by
    rw [lowerAfter_cons, lowerAt_of_fixed (h c List.mem_cons_self),
      lowerAfter_of_fixed _ fun d hd => h d (List.mem_cons_of_mem _ hd), List.singleton_append]

theorem fixed_of_mem_lowerAfter : ∀ {before cs : List Char} {d : Char},
    d ∈ lowerAfter before cs → Fixed d
  | _, [], _, hd => by cases hd
  | before, c :: after, d, hd => by
    rw [lowerAfter_cons] at hd
    rcases List.mem_append.mp hd with hd | hd
    · rcases eq_or_settled_of_mem_lowerAt hd with ⟨rfl, hfixed⟩ | hsettled
      · exact hfixed
      · exact fixed_of_settled hsettled
    · exact fixed_of_mem_lowerAfter hd

/-- A text in lower case is its own lower case form. -/
theorem lowercase_lowercase (s : String) : lowercase (lowercase s) = lowercase s := by
  have hfixed : lowerAfter [] (lowerAfter [] s.toList) = lowerAfter [] s.toList :=
    lowerAfter_of_fixed [] fun _ => fixed_of_mem_lowerAfter
  unfold lowercase
  rw [String.toList_ofList, hfixed]

theorem lowerAfter_eq_nil_iff {before cs : List Char} : lowerAfter before cs = [] ↔ cs = [] := by
  cases cs with
  | nil => exact iff_of_true rfl rfl
  | cons c after =>
    rw [lowerAfter_cons, List.append_eq_nil_iff]
    exact iff_of_false (fun h => lowerAt_ne_nil _ _ _ h.1) (List.cons_ne_nil _ _)

theorem head?_lowerAfter {before cs : List Char} {d : Char}
    (hd : d ∈ (lowerAfter before cs).head?) : d ∈ cs.head? ∨ Settled d := by
  cases cs with
  | nil => cases hd
  | cons c after =>
    obtain ⟨first, form, hform⟩ := List.exists_cons_of_ne_nil (lowerAt_ne_nil before c after)
    have hmem : d ∈ lowerAt before c after := by
      rw [lowerAfter_cons, hform, List.cons_append, List.head?_cons] at hd
      rw [hform, Option.some.inj hd]
      exact List.mem_cons_self
    rcases eq_or_settled_of_mem_lowerAt hmem with ⟨rfl, -⟩ | hsettled
    · exact Or.inl rfl
    · exact Or.inr hsettled

theorem getLast?_lowerAfter : ∀ {before cs : List Char} {d : Char},
    d ∈ (lowerAfter before cs).getLast? → d ∈ cs.getLast? ∨ Settled d
  | _, [], _, hd => by cases hd
  | before, [c], d, hd => by
    rw [lowerAfter_cons, lowerAfter, List.append_nil] at hd
    rcases eq_or_settled_of_mem_lowerAt (List.mem_of_getLast? hd) with ⟨rfl, -⟩ | hsettled
    · exact Or.inl rfl
    · exact Or.inr hsettled
  | before, c :: c' :: after, d, hd => by
    have hrest : lowerAfter (c :: before) (c' :: after) ≠ [] := fun h =>
      List.cons_ne_nil _ _ (lowerAfter_eq_nil_iff.mp h)
    rw [lowerAfter_cons, List.getLast?_append, List.getLast?_eq_some_getLast hrest, Option.some_or,
      ← List.getLast?_eq_some_getLast hrest] at hd
    rw [List.getLast?_cons_cons]
    exact getLast?_lowerAfter hd

/-- Lower case keeps the ends of a trimmed text. -/
theorem trimmed_lowerAfter {before cs : List Char} (h : Trimmed cs) :
    Trimmed (lowerAfter before cs) := by
  refine ⟨fun d hd => ?_, fun d hd => ?_⟩
  · rcases head?_lowerAfter hd with hd | hsettled
    · exact h.1 d hd
    · exact not_isBlank_of_settled hsettled
  · rcases getLast?_lowerAfter hd with hd | hsettled
    · exact h.2 d hd
    · exact not_isBlank_of_settled hsettled

/-- A single character that is not settled is the lower case form of nothing but itself. -/
theorem eq_singleton_of_lowerAfter {before cs : List Char} {d : Char}
    (h : lowerAfter before cs = [d]) (hd : ¬ Settled d) : cs = [d] := by
  cases cs with
  | nil => cases h
  | cons c after =>
    rw [lowerAfter_cons] at h
    obtain ⟨hform, -⟩ | ⟨hform, hrest⟩ := List.append_eq_singleton_iff.mp h
    · exact absurd hform (lowerAt_ne_nil _ _ _)
    · have hmem : d ∈ lowerAt before c after := hform ▸ List.mem_singleton_self d
      rcases eq_or_settled_of_mem_lowerAt hmem with ⟨rfl, -⟩ | hsettled
      · rw [lowerAfter_eq_nil_iff.mp hrest]
      · exact absurd hsettled hd

end ShallowTransfer.Text
