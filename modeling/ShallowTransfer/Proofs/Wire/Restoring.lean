import ShallowTransfer.Proofs.OrderedMap
import ShallowTransfer.Proofs.Wire.Spelling

/-!
Forms that restore. Written bytes spell the value that they were written of if the lengths in it can
be written in eight bytes, and they can where eight bytes can tell how many bytes there are in all
(`Restores`). Only some values of a type come back, for example maps where no key comes twice. A
form names these values (`RestoringForm`); those of lists, options, pairs and maps are put together
from those of their parts.
-/

namespace ShallowTransfer

open WireForm (write read)

/-- The bytes spell the value if there are fewer than 2^64 of them. -/
def Restores {α : Type} (r : WireReader α) (bs : Bytes) (a : α) : Prop :=
  bs.length < 2 ^ 64 → Spells r bs a

/-- A list has no more items than bytes if no item is written without bytes. -/
theorem length_le_length_flatMap {α : Type} {write : α → Bytes} :
    ∀ {xs : List α}, (∀ x ∈ xs, write x ≠ []) → xs.length ≤ (xs.flatMap write).length
  | [], _ => Nat.zero_le _
  | x :: xs, h => by
    have hx := List.length_pos_iff.mpr (h x List.mem_cons_self)
    have hxs := length_le_length_flatMap fun x' hx' => h x' (List.mem_cons_of_mem x hx')
    rw [List.flatMap_cons, List.length_append, List.length_cons]
    omega

namespace Restores

theorem bind {α β : Type} {r : WireReader α} {f : α → WireReader β} {bs cs : Bytes} {a : α} {b : β}
    (hr : Restores r bs a) (hf : Restores (f a) cs b) : Restores (r.bind f) (bs ++ cs) b := by
  intro hlength
  rw [List.length_append] at hlength
  exact (hr (by omega)).bind (hf (by omega))

/-- A step behind a value that takes no further bytes. -/
theorem finish {α β : Type} {r : WireReader α} {f : α → WireReader β} {bs : Bytes} {a : α} {b : β}
    (hr : Restores r bs a) (hf : Spells (f a) [] b) : Restores (r.bind f) bs b :=
  fun hlength => (hr hlength).finish hf

theorem map {α β : Type} {r : WireReader α} {bs : Bytes} {a : α} (f : α → β)
    (hr : Restores r bs a) : Restores (r.bind fun x => WireReader.pure (f x)) bs (f a) :=
  hr.finish (Spells.pure (f a))

theorem choice {α : Type} {cases : List (WireReader α)} {r : WireReader α} {n : Nat} {bs : Bytes}
    {a : α} (hn : n < 2 ^ 32) (hcase : cases[n]? = some r) (h : Restores r bs a) :
    Restores (WireReader.choice cases) (Wire.case n ++ bs) a := by
  intro hlength
  rw [List.length_append] at hlength
  exact Spells.choice hn hcase (h (by omega))

theorem list {α : Type} {r : WireReader α} {write : α → Bytes} {xs : List α}
    (hne : ∀ x ∈ xs, write x ≠ []) (h : ∀ x ∈ xs, Restores r (write x) x) :
    Restores (WireReader.list r) (Wire.list write xs) xs := by
  intro hlength
  rw [Wire.list, List.length_append] at hlength
  have hcount := length_le_length_flatMap hne
  refine Spells.list (by omega) (List.forall₂_same.mpr fun x hx => h x hx ?_)
  have hitem : (write x).length ≤ (xs.flatMap write).length := by
    rw [List.flatMap_def]
    exact (List.sublist_flatten_of_mem (List.mem_map_of_mem hx)).length_le
  omega

end Restores

/-- A form that restores some values of the type and writes no value without bytes. -/
class RestoringForm (α : Type) [WireForm α] where
  Stable : α → Prop
  write_ne_nil (a : α) : write a ≠ []
  restores {a : α} : Stable a → Restores read (write a) a

namespace RestoringForm

instance : RestoringForm String where
  Stable _ := True
  write_ne_nil _ := List.cons_ne_nil _ _
  restores {s} _ hlength := by
    have hbytes : write s = Wire.number 8 (Wire.utf8 s).length ++ Wire.utf8 s := rfl
    rw [hbytes, List.length_append] at hlength
    exact Spells.text (by omega)

instance : RestoringForm Bool where
  Stable _ := True
  write_ne_nil _ := List.cons_ne_nil _ _
  restores {b} _ _ := Spells.flag b

instance : RestoringForm UInt16 where
  Stable _ := True
  write_ne_nil _ := List.cons_ne_nil _ _
  restores {n} _ _ := by
    have h := (Spells.number 2 n.toNat_lt).map UInt16.ofNat
    rwa [UInt16.ofNat_toNat] at h

instance : RestoringForm UInt32 where
  Stable _ := True
  write_ne_nil _ := List.cons_ne_nil _ _
  restores {n} _ _ := by
    have h := (Spells.number 4 n.toNat_lt).map UInt32.ofNat
    rwa [UInt32.ofNat_toNat] at h

instance : RestoringForm UInt64 where
  Stable _ := True
  write_ne_nil _ := List.cons_ne_nil _ _
  restores {n} _ _ := by
    have h := (Spells.number 8 n.toNat_lt).map UInt64.ofNat
    rwa [UInt64.ofNat_toNat] at h

variable {α β : Type} [WireForm α] [WireForm β] [RestoringForm α] [RestoringForm β]

instance : RestoringForm (Option α) where
  Stable o := ∀ a ∈ o, Stable a
  write_ne_nil o := by cases o <;> exact List.cons_ne_nil _ _
  restores {o} h := by
    cases o with
    | none => exact fun _ => (Spells.byte 0).bind (Spells.pure none)
    | some a =>
      have hsome : Restores ((read : WireReader α).bind fun a => WireReader.pure (some a))
        (write a) (some a) := (restores (h a rfl)).map some
      exact Restores.bind (fun _ => Spells.byte 1) hsome

instance : RestoringForm (List α) where
  Stable xs := ∀ x ∈ xs, Stable x
  write_ne_nil _ := List.cons_ne_nil _ _
  restores h := Restores.list (fun x _ => write_ne_nil x) fun x hx => restores (h x hx)

instance : RestoringForm (α × β) where
  Stable p := Stable p.1 ∧ Stable p.2
  write_ne_nil p := List.append_ne_nil_of_left_ne_nil (write_ne_nil p.1) _
  restores h := (restores h.1).bind ((restores h.2).map _)

/-- A map where no key comes twice is restored from its entries. -/
instance [DecidableEq α] : RestoringForm (OrderedMap α β) where
  Stable m := m.keys.Nodup ∧ Stable m.entries
  write_ne_nil m := write_ne_nil m.entries
  restores {m} h := by
    refine (restores h.2).finish ?_
    rw [OrderedMap.ofList_entries h.1]
    exact Spells.pure m

end RestoringForm

end ShallowTransfer
