import Mathlib.Data.List.Induction
import Mathlib.Data.List.Nodup
import ShallowTransfer.OrderedMap

/-!
Maps by their entries. Writing never makes a key come twice (`nodup_keys_alter`), and where no key
does, the entries are the keys with their values (`mem_entries_iff`) and make up the map again
(`ofList_entries`). Keys stand in the order in which they are first written, so a run of writes
keeps the first of equal keys (`foldl_addKey`).
-/

namespace ShallowTransfer

namespace OrderedMap

variable {α β : Type} [DecidableEq α]

/-! ### Keys and values -/

theorem mem_of_find_eq_some {k : α} {v : β} :
    ∀ {entries : List (α × β)}, find k entries = some v → (k, v) ∈ entries
  | (k', v') :: rest, h => by
    rw [find] at h
    split at h
    · next hk =>
      cases h
      rw [hk]
      exact List.mem_cons_self
    · exact List.mem_cons_of_mem _ (mem_of_find_eq_some h)

/-- Where no key comes twice, the entries are the keys with their values. -/
theorem mem_entries_iff {m : OrderedMap α β} (h : m.keys.Nodup) {k : α} {v : β} :
    (k, v) ∈ m.entries ↔ m.get? k = some v := by
  refine ⟨fun hmem => ?_, mem_of_find_eq_some⟩
  obtain ⟨entries⟩ := m
  simp only [keys, get?] at h hmem ⊢
  induction entries with
  | nil => cases hmem
  | cons e rest ih =>
    obtain ⟨hnot, hrest⟩ := List.nodup_cons.mp h
    rw [find]
    rcases List.mem_cons.mp hmem with rfl | hmem
    · rw [if_pos rfl]
    · have hkey : e.1 ≠ k := fun he => hnot (List.mem_map.mpr ⟨(k, v), hmem, he.symm⟩)
      rw [if_neg hkey, ih hrest hmem]

theorem mem_keys_iff {m : OrderedMap α β} {k : α} : k ∈ m.keys ↔ (m.get? k).isSome = true := by
  obtain ⟨entries⟩ := m
  simp only [keys, get?]
  induction entries with
  | nil => simp [find]
  | cons e rest ih =>
    rw [List.map_cons, List.mem_cons, find, ih]
    by_cases h : e.1 = k
    · simp [h]
    · simp [h, Ne.symm h]

/-- A key that is left out takes no other value with it. -/
theorem find_filter_ne {k k' : α} (h : k' ≠ k) (entries : List (α × β)) :
    find k' (entries.filter fun e => e.1 ≠ k) = find k' entries := by
  induction entries with
  | nil => rfl
  | cons e rest ih =>
    by_cases he : e.1 = k
    · have hne : e.1 ≠ k' := fun heq => h (heq.symm.trans he)
      rw [List.filter_cons_of_neg (by simp [he]), ih, find, if_neg hne]
    · rw [List.filter_cons_of_pos (by simp [he]), find, find, ih]

/-! ### Writing -/

theorem nodup_keys_alter {m : OrderedMap α β} (h : m.keys.Nodup) (k : α) (f : Option β → β) :
    (m.alter k f).keys.Nodup := by
  rw [keys_alter]
  split
  · exact h
  · next hk =>
    rw [List.nodup_append]
    refine ⟨h, List.nodup_singleton k, fun a ha b hb hab => ?_⟩
    rw [List.mem_singleton.mp hb] at hab
    exact hk (hab ▸ ha)

theorem mem_keys_alter {m : OrderedMap α β} {k k' : α} {f : Option β → β} :
    k' ∈ (m.alter k f).keys ↔ k' ∈ m.keys ∨ k' = k := by
  rw [keys_alter]
  split
  · next hk =>
    refine ⟨.inl, ?_⟩
    rintro (h | rfl)
    · exact h
    · exact hk
  · rw [List.mem_append, List.mem_singleton]

/-- Keys with one more key, which goes to the end unless it is there. -/
def addKey (keys : List α) (k : α) : List α :=
  if k ∈ keys then keys else keys ++ [k]

theorem keys_alter_eq_addKey (m : OrderedMap α β) (k : α) (f : Option β → β) :
    (m.alter k f).keys = addKey m.keys k :=
  keys_alter m k f

theorem addKey_of_mem {keys : List α} {k : α} (h : k ∈ keys) : addKey keys k = keys :=
  if_pos h

theorem mem_addKey (keys : List α) (k : α) : k ∈ addKey keys k := by
  unfold addKey
  split
  · assumption
  · simp

/-- Keys that are added one after another are in the order in which they first come. -/
theorem foldl_addKey (ks : List α) : ks.foldl addKey [] = ks.eraseDups := by
  induction ks using List.reverseRecOn with
  | nil => rfl
  | append_singleton ks k ih =>
    rw [List.foldl_append, List.foldl_cons, List.foldl_nil, ih, addKey, List.eraseDups_append]
    by_cases h : k ∈ ks
    · simp [h, List.removeAll]
    · simp [h, List.removeAll, List.eraseDups_cons]

/-- What holds of all values and is kept by a change holds of all values after the change. -/
theorem forall_mem_alterEntries {P : β → Prop} {k : α} {f : Option β → β} (hnew : P (f none))
    (hold : ∀ v, P v → P (f (some v))) :
    ∀ {entries : List (α × β)}, (∀ e ∈ entries, P e.2) → ∀ e ∈ alterEntries k f entries, P e.2
  | [], _ => by
    intro e he
    rw [List.mem_singleton.mp he]
    exact hnew
  | (k', v) :: rest, h => by
    rw [List.forall_mem_cons] at h
    rw [alterEntries]
    split
    · exact List.forall_mem_cons.mpr ⟨hold v h.1, h.2⟩
    · exact List.forall_mem_cons.mpr ⟨h.1, forall_mem_alterEntries hnew hold h.2⟩

/-- A new key goes to the end. -/
theorem alterEntries_of_not_mem {k : α} (f : Option β → β) :
    ∀ {entries : List (α × β)}, k ∉ entries.map (·.1) →
      alterEntries k f entries = entries ++ [(k, f none)]
  | [], _ => rfl
  | (k', v) :: rest, h => by
    rw [List.map_cons, List.mem_cons, not_or] at h
    rw [alterEntries, if_neg (Ne.symm h.1), alterEntries_of_not_mem f h.2, List.cons_append]

/-! ### Writing one after another -/

/-- What stands in a map was written into it. -/
theorem mem_of_get?_foldl_insert {k : α} {v : β} :
    ∀ {entries : List (α × β)} {m : OrderedMap α β},
      (entries.foldl (fun m e => m.insert e.1 e.2) m).get? k = some v →
        (k, v) ∈ entries ∨ m.get? k = some v
  | [], _, h => .inr h
  | e :: rest, m, h => by
    rcases @mem_of_get?_foldl_insert k v rest _ h with hm | hm
    · exact .inl (List.mem_cons_of_mem _ hm)
    · rw [OrderedMap.get?_insert] at hm
      split at hm
      · next hk =>
        subst hk
        cases hm
        exact .inl List.mem_cons_self
      · exact .inr hm

theorem ofList_concat (entries : List (α × β)) (e : α × β) :
    ofList (entries ++ [e]) = (ofList entries).insert e.1 e.2 := by
  rw [ofList, List.foldl_append]
  rfl

/-- The keys of written entries are those that were written. -/
theorem mem_keys_ofList {entries : List (α × β)} {k : α} :
    k ∈ (ofList entries).keys ↔ k ∈ entries.map (·.1) := by
  induction entries using List.reverseRecOn with
  | nil => rfl
  | append_singleton entries e ih =>
    rw [ofList_concat, insert, mem_keys_alter, ih, List.map_append, List.mem_append]
    simp

theorem nodup_keys_ofList (entries : List (α × β)) : (ofList entries).keys.Nodup :=
  List.foldlRecOn (motive := fun m : OrderedMap α β => m.keys.Nodup) entries _ List.nodup_nil
    fun _ hm e _ => nodup_keys_alter hm e.1 _

/-- Entries with new keys go to the end in their order. -/
theorem foldl_insert_of_nodup :
    ∀ (more entries : List (α × β)), ((entries ++ more).map (·.1)).Nodup →
      more.foldl (fun m e => m.insert e.1 e.2) ⟨entries⟩ = (⟨entries ++ more⟩ : OrderedMap α β)
  | [], entries, _ => by rw [List.foldl_nil, List.append_nil]
  | e :: rest, entries, h => by
    have hnot : e.1 ∉ entries.map (·.1) := by
      rw [List.map_append, List.map_cons] at h
      exact fun hmem => (List.nodup_append.mp h).2.2 _ hmem _ List.mem_cons_self rfl
    have hstep : (⟨entries⟩ : OrderedMap α β).insert e.1 e.2 = ⟨entries ++ [e]⟩ :=
      congrArg OrderedMap.mk (alterEntries_of_not_mem _ hnot)
    rw [List.append_cons] at h
    rw [List.foldl_cons, hstep, foldl_insert_of_nodup rest _ h, ← List.append_cons]

/-- A map where no key comes twice is made up of its entries. -/
theorem ofList_entries {m : OrderedMap α β} (h : m.keys.Nodup) : ofList m.entries = m :=
  foldl_insert_of_nodup m.entries [] h

end OrderedMap

end ShallowTransfer
