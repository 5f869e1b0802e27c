import Mathlib.Data.List.Forall2

/-!
Steps that may fail, along a list: all of them succeed together, element by element, and if they do
not, the first one that fails tells why.
-/

namespace ShallowTransfer

/-- A step that succeeds and is changed afterwards succeeds before. -/
theorem map_eq_ok_iff {α β ε : Type} {f : α → β} {x : Except ε α} {y : β} :
    x.map f = .ok y ↔ ∃ a, x = .ok a ∧ f a = y := by
  cases x with
  | error e => simp [Except.map]
  | ok a => simp [Except.map]

/-- Two steps succeed together if and only if the first one does, and the second on its result. -/
theorem bind_eq_ok_iff {α β ε : Type} {x : Except ε α} {f : α → Except ε β} {b : β} :
    (x >>= f) = .ok b ↔ ∃ a, x = .ok a ∧ f a = .ok b := by
  cases x with
  | error e => simp [bind, Except.bind]
  | ok a => simp [bind, Except.bind]

/-- Of lists that belong together, an element of the second one belongs to one of the first one. -/
theorem exists_of_mem_forall₂ {α β : Type} {R : α → β → Prop} {xs : List α} {ys : List β}
    (h : List.Forall₂ R xs ys) {y : β} (hy : y ∈ ys) : ∃ x ∈ xs, R x y := by
  induction h with
  | nil => cases hy
  | cons hr _ ih =>
    rcases List.mem_cons.mp hy with rfl | hy
    · exact ⟨_, List.mem_cons_self, hr⟩
    · obtain ⟨x, hx, hxy⟩ := ih hy
      exact ⟨x, List.mem_cons_of_mem _ hx, hxy⟩

/-- Where each element of a list belongs to something, the list belongs to a list. -/
theorem exists_forall₂ {α β : Type} {R : α → β → Prop} :
    ∀ {xs : List α}, (∀ x ∈ xs, ∃ y, R x y) → ∃ ys, List.Forall₂ R xs ys
  | [], _ => ⟨[], List.Forall₂.nil⟩
  | x :: xs, h => by
    obtain ⟨y, hy⟩ := h x List.mem_cons_self
    obtain ⟨ys, hys⟩ := exists_forall₂ fun x' hx' => h x' (List.mem_cons_of_mem _ hx')
    exact ⟨y :: ys, List.Forall₂.cons hy hys⟩

/-- A list is worked off if and only if each of its elements is. -/
theorem mapM_eq_ok_iff {α β ε : Type} {f : α → Except ε β} :
    ∀ {xs : List α} {ys : List β},
      xs.mapM f = .ok ys ↔ List.Forall₂ (fun x y => f x = .ok y) xs ys
  | [], ys => by
    rw [List.mapM_nil, List.forall₂_nil_left_iff]
    constructor
    · intro h; cases h; rfl
    · rintro rfl; rfl
  | x :: xs, ys => by
    rw [List.mapM_cons, List.forall₂_cons_left_iff]
    cases hx : f x with
    | error e =>
      constructor
      · intro h; cases h
      · rintro ⟨y, ys', hy, -⟩; cases hy
    | ok y =>
      cases hxs : xs.mapM f with
      | error e =>
        constructor
        · intro h; cases h
        · rintro ⟨y', ys', -, hys, -⟩
          rw [← mapM_eq_ok_iff, hxs] at hys
          cases hys
      | ok more =>
        constructor
        · intro h; cases h
          exact ⟨y, more, rfl, mapM_eq_ok_iff.mp hxs, rfl⟩
        · rintro ⟨y', ys', hy, hys, rfl⟩
          rw [← mapM_eq_ok_iff, hxs] at hys
          cases hy; cases hys
          rfl

/-- Why a step fails, if it does. -/
def error? {α ε : Type} : Except ε α → Option ε
  | .error e => some e
  | .ok _ => none

theorem error?_eq_some_iff {α ε : Type} {x : Except ε α} {e : ε} :
    error? x = some e ↔ x = .error e := by
  cases x <;> simp [error?]

theorem error?_eq_none_iff {α ε : Type} {x : Except ε α} : error? x = none ↔ ∃ a, x = .ok a := by
  cases x <;> simp [error?]

theorem error?_map {α β ε : Type} (f : α → β) (x : Except ε α) : error? (x.map f) = error? x := by
  cases x <;> rfl

/-- What cannot fail after a step fails as the step does. -/
theorem error?_bind_ok {α β ε : Type} (x : Except ε α) (f : α → β) :
    error? (x >>= fun a => .ok (f a)) = error? x := by
  cases x <;> rfl

/-- A list is worked off up to the first element that fails. -/
theorem error?_mapM {α β ε : Type} (f : α → Except ε β) :
    ∀ xs : List α, error? (xs.mapM f) = xs.findSome? fun x => error? (f x)
  | [] => rfl
  | x :: xs => by
    rw [List.mapM_cons, List.findSome?_cons, ← error?_mapM f xs]
    cases f x with
    | error e => rfl
    | ok y => cases xs.mapM f <;> rfl

/-- Changing each result of a list is changing the list of results. -/
theorem map_mapM {α β γ ε : Type} (f : α → Except ε β) (g : β → γ) :
    ∀ xs : List α, (xs.mapM f).map (List.map g) = xs.mapM fun x => (f x).map g
  | [] => rfl
  | x :: xs => by
    rw [List.mapM_cons, List.mapM_cons, ← map_mapM f g xs]
    cases f x with
    | error e => rfl
    | ok y => cases xs.mapM f <;> rfl

/-- Elements that fail with changed errors make the list fail with the changed error. -/
theorem mapM_map_mapError {α β ε : Type} {f : α → Except ε β} {g : α → α} {h : ε → ε}
    (hfg : ∀ x, f (g x) = (f x).mapError h) :
    ∀ xs : List α, (xs.map g).mapM f = (xs.mapM f).mapError h
  | [] => rfl
  | x :: xs => by
    rw [List.map_cons, List.mapM_cons, List.mapM_cons, mapM_map_mapError hfg xs, hfg]
    cases f x with
    | error e => rfl
    | ok y => cases xs.mapM f <;> rfl

end ShallowTransfer
