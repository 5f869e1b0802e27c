import ShallowTransfer.Json.Form
import ShallowTransfer.Proofs.OrderedMap
import ShallowTransfer.Proofs.Traversal
import ShallowTransfer.Wire.Form

/-!
What was read where reading succeeded. A text holds a value (`exists_of_readText`), a record is put
together from the values of its fields (`value_of_finish`, `value_apply_eq_some_iff`), each of which
stood in the text if it has to (`exists_of_required`), and bytes are taken by one reader after
another (`bind_eq_ok_iff`). In a map that was read no key comes twice, whatever the text or the bytes
were (`nodup_keys_of_readMap`, `nodup_keys_of_read`).
-/

namespace ShallowTransfer

/-! ### JSON -/

namespace Json

variable {α β : Type}

theorem exists_of_readText {reader : Json → Except JsonError α} {s : String} {a : α}
    (h : readText reader s = .ok a) : ∃ j, reader j = .ok a := by
  simp only [readText] at h
  split at h
  · cases h
  · next hread =>
    split at h
    · cases h
      exact ⟨_, hread⟩
    · cases h

/-- A map that was read is made of a list of entries. -/
theorem nodup_keys_of_readMap {reader : Json → Except JsonError α} {j : Json}
    {m : OrderedMap String α} (h : readMap reader j = .ok m) : m.keys.Nodup := by
  cases j with
  | obj members tail =>
    rw [readMap] at h
    split at h
    · cases h
    · cases h
    · cases h
      exact OrderedMap.nodup_keys_ofList _
  | _ => cases h

theorem Found.value_apply_eq_some_iff {f : Found (α → β)} {a : Found α} {b : β} :
    (f.apply a).value = some b ↔ ∃ g x, f.value = some g ∧ a.value = some x ∧ g x = b := by
  rw [Found.apply]
  cases f.value <;> cases a.value <;> simp

namespace Fields

variable {f : Fields}

theorem value_of_finish {found : Found α} {a : α} (h : f.finish found = .ok a) :
    found.value = some a := by
  rw [finish] at h
  split at h
  · cases h
  · next hvalue =>
    cases h
    exact hvalue
  · cases h

theorem exists_of_required [JsonForm α] {name : String} {a : α}
    (h : (f.required name).value = some a) : ∃ j, JsonForm.read j = .ok a := by
  rw [required, get] at h
  split at h
  · split at h
    · next hread =>
      cases h
      exact ⟨_, hread⟩
    · cases h
  · cases h

end Fields

end Json

/-! ### Bytes -/

namespace WireReader

/-- Two readers one behind another succeed if and only if the first one does, and the second on what
it leaves. -/
theorem bind_eq_ok_iff {α β : Type} {r : WireReader α} {f : α → WireReader β} {bytes rest : Bytes}
    {b : β} : r.bind f bytes = .ok (b, rest) ↔
      ∃ a more, r bytes = .ok (a, more) ∧ f a more = .ok (b, rest) := by
  rw [WireReader.bind]
  cases hr : r bytes with
  | error e => simp
  | ok p => simp [Prod.ext_iff]

end WireReader

namespace WireForm

variable {α β : Type}

theorem exists_of_decode [WireForm α] {bytes : Bytes} {a : α} (h : decode bytes = .ok a) :
    ∃ rest, read bytes = .ok (a, rest) := by
  rw [decode] at h
  split at h
  · next hread =>
    cases h
    exact ⟨_, hread⟩
  · cases h

/-- A map that was read is made of a list of entries. -/
theorem nodup_keys_of_read [DecidableEq α] [WireForm α] [WireForm β] {bytes rest : Bytes}
    {m : OrderedMap α β} (h : read bytes = .ok (m, rest)) : m.keys.Nodup := by
  obtain ⟨entries, more, -, h⟩ := WireReader.bind_eq_ok_iff.mp h
  cases h
  exact OrderedMap.nodup_keys_ofList entries

end WireForm

end ShallowTransfer
