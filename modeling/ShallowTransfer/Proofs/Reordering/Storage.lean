import ShallowTransfer.Proofs.Reordering.StoredForm
import ShallowTransfer.Proofs.Wire.Spelling

/-!
Storing syntactic rules and loading them. Loading always succeeds, and what it gives does the same
as what was stored as long as the rules keep equal labels in their order; a rule that exchanges
equal labels comes back as one that does not (`decode_write_transfer`).
-/

namespace ShallowTransfer

open WireForm (write read decode)

namespace SyntacticRule

/-- What is written of a rule spells the rule that loading makes of it. -/
theorem exists_spells {r : SyntacticRule} (hparsed : r.pattern.Parsed)
    (hfits : LawfulForm.Fits r.toForm) : ∃ r', Spells read (write r) r' ∧ Reloaded r r' := by
  obtain ⟨r', hload, hreload⟩ := exists_ofForm_toForm hparsed
  exact ⟨r', (LawfulForm.spells hfits).finish (Spells.ofConfig hload), hreload⟩

end SyntacticRule

namespace SyntacticTransfer

open SyntacticRule (Built Reloaded KeepsEqualLabels)

/-- Loading what is written of some rules gives what loading makes of each of them. -/
theorem exists_decode_write {rules : List SyntacticRule} (hbuilt : ∀ r ∈ rules, r.Built)
    (hfits : LawfulForm.Fits (rules.map SyntacticRule.toForm)) :
    ∃ loaded, decode (write (⟨rules⟩ : SyntacticTransfer)) = .ok (⟨loaded⟩ : SyntacticTransfer) ∧
      List.Forall₂ (fun r r' => r ∈ rules ∧ Reloaded r r') rules loaded := by
  obtain ⟨hlen, hforms⟩ := hfits
  rw [List.length_map] at hlen
  have heach : ∀ r ∈ rules, ∃ r', Spells read (write r) r' ∧ r ∈ rules ∧ Reloaded r r' := by
    intro r hr
    obtain ⟨r', hspells, hreload⟩ :=
      SyntacticRule.exists_spells (hbuilt r hr).parsed (hforms _ (List.mem_map_of_mem hr))
    exact ⟨r', hspells, hr, hreload⟩
  obtain ⟨loaded, hloaded⟩ := exists_forall₂ heach
  have hrules := Spells.list hlen (hloaded.imp fun _ _ h => h.1)
  have htransfer := (hrules.map fun rules => (⟨rules⟩ : SyntacticTransfer)).decode []
  rw [List.append_nil] at htransfer
  exact ⟨loaded, htransfer, hloaded.imp fun _ _ h => h.2⟩

theorem run_congr {rules loaded : List SyntacticRule}
    (h : List.Forall₂ (fun r r' => ∀ groups, r'.apply groups = r.apply groups) rules loaded)
    (groups : List Group) : run loaded groups = run rules groups := by
  induction h generalizing groups with
  | nil => rfl
  | @cons r r' rules loaded happly _ ih =>
    change run loaded (r'.apply groups) = run rules (r.apply groups)
    rw [happly, ih]

/-- What is written of rules is always loaded. A rule comes back with the same effect on all trees
if and only if it keeps equal labels in their order, and so do all rules together if each of them
does. -/
theorem decode_write_transfer {rules : List SyntacticRule} (hbuilt : ∀ r ∈ rules, r.Built)
    (hfits : LawfulForm.Fits (rules.map SyntacticRule.toForm)) :
    ∃ loaded, decode (write (⟨rules⟩ : SyntacticTransfer)) = .ok (⟨loaded⟩ : SyntacticTransfer) ∧
      List.Forall₂ (fun r r' => (∀ tree, transfer ⟨[r']⟩ tree = transfer ⟨[r]⟩ tree) ↔
        r.KeepsEqualLabels) rules loaded ∧
      ((∀ r ∈ rules, r.KeepsEqualLabels) →
        ∀ tree, transfer ⟨loaded⟩ tree = transfer ⟨rules⟩ tree) := by
  obtain ⟨loaded, hdecode, hreloaded⟩ := exists_decode_write hbuilt hfits
  refine ⟨loaded, hdecode, hreloaded.imp ?_, fun hkeeps tree => ?_⟩
  · rintro r r' ⟨hr, h⟩
    exact (h.transfer_eq_iff (hbuilt r hr).parsed).trans h.order_eq_iff
  · have happly : List.Forall₂ (fun r r' => ∀ groups, r'.apply groups = r.apply groups)
        rules loaded := by
      refine hreloaded.imp ?_
      rintro r r' ⟨hr, h⟩
      exact SyntacticRule.apply_congr h.pattern_eq (h.order_eq_iff.mpr (hkeeps r hr)) h.options_eq
    rw [transfer_eq_ok, transfer_eq_ok, run_congr happly]

/-- A rule that exchanges two neighbours of any tags. -/
def exchange : SyntacticRule :=
  ⟨"swap", .tokens [.any, .any], [1, 0], [], false, by decide⟩

/-- A rule that puts a noun behind its right neighbour. -/
def nounLast : SyntacticRule :=
  ⟨"noun last", .tokens [.whole "n", .any], [1, 0], [.nounPhrase], true, by decide⟩

/-- A chunk with two words. -/
def twoWords : ShallowTree :=
  ⟨[⟨.nounPhrase, [⟨⟨"", 0⟩, "", .lexicon⟩, ⟨⟨"", 1⟩, "", .lexicon⟩]⟩]⟩

theorem exchange_built : exchange.Built := by
  refine .of_parsed fun m hm => ?_
  rcases List.mem_pair.mp hm with rfl | rfl <;> exact ⟨"*", by decide⟩

theorem nounLast_built : nounLast.Built := by
  refine .of_parsed fun m hm => ?_
  rcases List.mem_pair.mp hm with rfl | rfl
  · exact ⟨"=n", by decide⟩
  · exact ⟨"*", by decide⟩

/-- Neighbours of the same label are exchanged before storing, and left as they are after
loading. -/
theorem decode_write_exchange :
    exchange.Built ∧
      ∃ loaded, decode (write (⟨[exchange]⟩ : SyntacticTransfer)) =
          .ok (⟨[loaded]⟩ : SyntacticTransfer) ∧
        transfer ⟨[loaded]⟩ twoWords ≠ transfer ⟨[exchange]⟩ twoWords := by
  have hbuilt : ∀ r ∈ [exchange], r.Built := fun r hr => List.mem_singleton.mp hr ▸ exchange_built
  have hfits : LawfulForm.Fits ([exchange].map SyntacticRule.toForm) := by
    simp only [LawfulForm.Fits]
    decide
  have htree : exchange.tellingTree = twoWords := rfl
  obtain ⟨_, hdecode, hreloaded⟩ := exists_decode_write hbuilt hfits
  cases hreloaded with
  | @cons _ loaded _ _ hload hrest =>
    cases hrest
    refine ⟨exchange_built, loaded, hdecode, fun hsame => ?_⟩
    rw [← htree] at hsame
    have horder := hload.2.order_eq_of_transfer_eq exchange_built.parsed hsame
    exact absurd (hload.2.order_eq_iff.mp horder) (by decide)

/-- Of two rules in one store, the one with equal labels loses its effect and the other keeps it. -/
theorem decode_write_transfer_pair :
    ∃ r r', decode (write (⟨[exchange, nounLast]⟩ : SyntacticTransfer)) =
        .ok (⟨[r, r']⟩ : SyntacticTransfer) ∧
      (¬ ∀ tree, transfer ⟨[r]⟩ tree = transfer ⟨[exchange]⟩ tree) ∧
      ∀ tree, transfer ⟨[r']⟩ tree = transfer ⟨[nounLast]⟩ tree := by
  have hbuilt : ∀ r ∈ [exchange, nounLast], r.Built := by
    intro r hr
    rcases List.mem_pair.mp hr with rfl | rfl
    · exact exchange_built
    · exact nounLast_built
  have hfits : LawfulForm.Fits ([exchange, nounLast].map SyntacticRule.toForm) := by
    simp only [LawfulForm.Fits]
    decide
  obtain ⟨loaded, hdecode, hsame, -⟩ := decode_write_transfer hbuilt hfits
  cases hsame with
  | @cons _ r _ _ hr hrest =>
    cases hrest with
    | @cons _ r' _ _ hr' hnil =>
      cases hnil
      exact ⟨r, r', hdecode, fun h => absurd (hr.mp h) (by decide), hr'.mpr (by decide)⟩

end SyntacticTransfer

end ShallowTransfer
