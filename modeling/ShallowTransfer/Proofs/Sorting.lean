import ShallowTransfer.Proofs.Tag.Numbering

/-!
Sorting and choosing. A list that is sorted by a total order shows nothing of the order its
elements were in (`mergeSort_eq_of_perm`). The orders by number and of lists of numbers are total,
and so is every order by a number or by a list of numbers that tells the elements. Where one of two
elements can be chosen that is as good as both, the best of a list is found by going through it once
(`Chooses.foldl`).
-/

namespace ShallowTransfer

/-- Lists of the same elements are sorted into the same list. -/
theorem mergeSort_eq_of_perm {α : Type} {le : α → α → Bool}
    (htrans : ∀ a b c, le a b = true → le b c = true → le a c = true)
    (htotal : ∀ a b, (le a b || le b a) = true) {xs ys : List α}
    (hantisymm : ∀ a ∈ ys, ∀ b ∈ ys, le a b = true → le b a = true → a = b) (h : xs.Perm ys) :
    xs.mergeSort le = ys.mergeSort le := by
  have hperm : (xs.mergeSort le).Perm ys := (List.mergeSort_perm xs le).trans h
  have hsorted (zs : List α) : (zs.mergeSort le).Pairwise fun a b => le a b = true :=
    List.pairwise_mergeSort htrans htotal zs
  refine List.Perm.eq_of_pairwise (fun a b ha hb hab hba => ?_) (hsorted xs) (hsorted ys)
    (hperm.trans (List.mergeSort_perm ys le).symm)
  exact hantisymm a (hperm.mem_iff.mp ha) b ((List.mergeSort_perm ys le).mem_iff.mp hb) hab hba

/-! ### Choosing -/

/-- Of two elements one is picked that is as good as both. -/
structure Chooses {α : Type} (asGood : α → α → Prop) (pick : α → α → α) : Prop where
  refl : ∀ a, asGood a a
  trans : ∀ {a b c}, asGood a b → asGood b c → asGood a c
  picked : ∀ a b, (pick a b = a ∨ pick a b = b) ∧ asGood (pick a b) a ∧ asGood (pick a b) b

/-- The best of some elements is one of them and as good as all of them. -/
theorem Chooses.foldl {α : Type} {asGood : α → α → Prop} {pick : α → α → α}
    (h : Chooses asGood pick) (rest : List α) : ∀ e : α,
      rest.foldl pick e ∈ e :: rest ∧ ∀ a ∈ e :: rest, asGood (rest.foldl pick e) a := by
  induction rest with
  | nil => intro e; simp [h.refl]
  | cons e' rest ih =>
    intro e
    obtain ⟨hchoice, hleft, hright⟩ := h.picked e e'
    obtain ⟨hmem, hgood⟩ := ih (pick e e')
    have hbest := hgood _ List.mem_cons_self
    rw [List.foldl_cons]
    refine ⟨?_, fun a ha => ?_⟩
    · rcases List.mem_cons.mp hmem with heq | hmem
      · rw [heq]
        rcases hchoice with hc | hc <;> simp [hc]
      · simp [hmem]
    · rcases List.mem_cons.mp ha with rfl | ha
      · exact h.trans hbest hleft
      · rcases List.mem_cons.mp ha with rfl | ha
        · exact h.trans hbest hright
        · exact hgood a (List.mem_cons_of_mem _ ha)

/-! ### Numbers -/

theorem ble_trans (l m n : Nat) (hlm : Nat.ble l m = true) (hmn : Nat.ble m n = true) :
    Nat.ble l n = true := by
  rw [Nat.ble_eq] at hlm hmn ⊢
  omega

theorem ble_total (m n : Nat) : (Nat.ble m n || Nat.ble n m) = true := by
  rw [Bool.or_eq_true, Nat.ble_eq, Nat.ble_eq]
  omega

theorem ble_antisymm (m n : Nat) (hmn : Nat.ble m n = true) (hnm : Nat.ble n m = true) :
    m = n := by
  rw [Nat.ble_eq] at hmn hnm
  omega

/-! ### Lists of numbers -/

/-- Whether a list of numbers comes before another one or is the same. -/
def lexLe (ls ms : List Nat) : Bool :=
  !List.lex ms ls Nat.blt

theorem lexLe_iff {ls ms : List Nat} :
    lexLe ls ms = true ↔ ls = ms ∨ List.lex ls ms Nat.blt = true := by
  rw [lexLe, Bool.not_eq_true']
  constructor
  · intro h
    by_cases he : ls = ms
    · exact .inl he
    · exact .inr (lex_total ms ls (Ne.symm he) h)
  · rintro (rfl | hlt)
    · exact not_lex_self ls
    · exact lex_asymm hlt

theorem lexLe_trans (ls ms ns : List Nat) (hlm : lexLe ls ms = true) (hmn : lexLe ms ns = true) :
    lexLe ls ns = true := by
  rw [lexLe_iff] at hlm hmn ⊢
  rcases hlm with rfl | hlm
  · exact hmn
  · rcases hmn with rfl | hmn
    · exact .inr hlm
    · exact .inr (lex_trans ls ms ns hlm hmn)

theorem lexLe_total (ls ms : List Nat) : (lexLe ls ms || lexLe ms ls) = true := by
  rw [Bool.or_eq_true, lexLe_iff, lexLe_iff]
  by_cases he : ls = ms
  · exact .inl (.inl he)
  · cases h : List.lex ls ms Nat.blt with
    | true => exact .inl (.inr rfl)
    | false => exact .inr (.inr (lex_total ls ms he h))

theorem lexLe_antisymm (ls ms : List Nat) (hlm : lexLe ls ms = true) (hml : lexLe ms ls = true) :
    ls = ms := by
  rcases lexLe_iff.mp hlm with he | hlt
  · exact he
  · rw [lexLe, hlt] at hml
    cases hml

/-! ### Texts -/

theorem textBefore_eq_false_iff {s t : String} :
    textBefore t s = false ↔ lexLe (s.toList.map Char.toNat) (t.toList.map Char.toNat) = true := by
  rw [lexLe, Bool.not_eq_true', textBefore]

/-- Of two texts that do not come before each other there is one. -/
theorem eq_of_textBefore_eq_false {s t : String} (hst : textBefore s t = false)
    (hts : textBefore t s = false) : s = t :=
  codePoints_injective
    (lexLe_antisymm _ _ (textBefore_eq_false_iff.mp hts) (textBefore_eq_false_iff.mp hst))

theorem textBefore_eq_false_trans {s t u : String} (hts : textBefore t s = false)
    (hut : textBefore u t = false) : textBefore u s = false := by
  rw [textBefore_eq_false_iff] at hts hut ⊢
  exact lexLe_trans _ _ _ hts hut

end ShallowTransfer
