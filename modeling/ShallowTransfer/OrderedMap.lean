/-!
Maps that remember the order in which their keys came in. A key that is written again keeps its
place and takes the last value: `get?_alter` says so of the values and `keys_alter` of the keys.
-/

namespace ShallowTransfer

variable {α : Type} {β : Type}

/-- Keys and values in the order in which the keys came in. -/
structure OrderedMap (α β : Type) where
  entries : List (α × β)
deriving Repr, DecidableEq

namespace OrderedMap

/-- The map without keys. -/
def empty : OrderedMap α β := ⟨[]⟩

/-- The keys in their order. -/
def keys (m : OrderedMap α β) : List α :=
  m.entries.map (·.1)

/-- The number of keys. -/
def size (m : OrderedMap α β) : Nat :=
  m.entries.length

section Lookup
variable [DecidableEq α]

/-- The value of the first entry with the key. -/
def find (k : α) : List (α × β) → Option β
  | [] => none
  | (k', v) :: rest => if k' = k then some v else find k rest

/-- The value of a key. -/
def get? (m : OrderedMap α β) (k : α) : Option β :=
  find k m.entries

/-- The entries with the value of the key changed by `f`; a new key goes to the end. -/
def alterEntries (k : α) (f : Option β → β) : List (α × β) → List (α × β)
  | [] => [(k, f none)]
  | (k', v) :: rest => if k' = k then (k', f (some v)) :: rest else (k', v) :: alterEntries k f rest

/-- Changes the value of the key by `f`; a new key goes to the end. -/
def alter (m : OrderedMap α β) (k : α) (f : Option β → β) : OrderedMap α β :=
  ⟨alterEntries k f m.entries⟩

/-- Writes the value of the key. -/
def insert (m : OrderedMap α β) (k : α) (v : β) : OrderedMap α β :=
  m.alter k fun _ => v

/-- Writes keys and values one after another. -/
def ofList (entries : List (α × β)) : OrderedMap α β :=
  entries.foldl (fun m e => m.insert e.1 e.2) empty

/-- Changing one key changes the value of that key alone. -/
theorem get?_alter (m : OrderedMap α β) (k k' : α) (f : Option β → β) :
    (m.alter k f).get? k' = if k = k' then some (f (m.get? k)) else m.get? k' := by
  obtain ⟨entries⟩ := m
  simp only [alter, get?]
  induction entries with
  | nil => by_cases h : k = k' <;> simp [alterEntries, find, h]
  | cons e rest ih =>
    by_cases he : e.1 = k
    · by_cases hk : k = k' <;> simp_all [alterEntries, find]
    · by_cases hk : k = k'
      · subst hk; simp_all [alterEntries, find]
      · simp_all [alterEntries, find]

/-- A written value is read back, and all other keys keep theirs. -/
theorem get?_insert (m : OrderedMap α β) (k k' : α) (v : β) :
    (m.insert k v).get? k' = if k = k' then some v else m.get? k' :=
  get?_alter m k k' fun _ => v

/-- The keys keep their places when the entries of one key change. -/
theorem map_fst_alterEntries (k : α) (f : Option β → β) :
    ∀ entries, (alterEntries k f entries).map (·.1) =
      if k ∈ entries.map (·.1) then entries.map (·.1) else entries.map (·.1) ++ [k]
  | [] => rfl
  | (k', v) :: rest => by
    have ih := map_fst_alterEntries k f rest
    rw [alterEntries]
    by_cases h : k' = k
    · rw [if_pos h, List.map_cons, List.map_cons, if_pos (List.mem_cons.mpr (.inl h.symm))]
    · rw [if_neg h, List.map_cons, List.map_cons, ih]
      by_cases hk : k ∈ rest.map (·.1)
      · rw [if_pos hk, if_pos (List.mem_cons_of_mem _ hk)]
      · have hn : k ∉ k' :: rest.map (·.1) := by
          intro hm
          rcases List.mem_cons.mp hm with he | hr
          · exact h he.symm
          · exact hk hr
        rw [if_neg hk, if_neg hn, List.cons_append]

/-- A key that is there keeps its place, and a new one goes to the end. -/
theorem keys_alter (m : OrderedMap α β) (k : α) (f : Option β → β) :
    (m.alter k f).keys = if k ∈ m.keys then m.keys else m.keys ++ [k] :=
  map_fst_alterEntries k f m.entries

end Lookup

end OrderedMap

end ShallowTransfer
