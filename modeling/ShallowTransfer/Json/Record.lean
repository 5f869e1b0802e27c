import ShallowTransfer.Json.Basic

/-!
Reading records. A record is an object whose members are the fields, in any order and among other
members, or an array of the fields in their order. All fields are read, and of all faults the one
that stands first in the text is reported; that a field is missing shows only at the end.
-/

namespace ShallowTransfer.Json

/-- A fault and the index of the member it is met at. -/
abbrev PlacedFault := Nat × JsonError

/-- The fields of a record, each with its index in the text, and the faults met between them. -/
structure Fields where
  members : List (String × Nat × Json)
  faults : List PlacedFault
  size : Nat

namespace Fields

/-- One more member with a known name in front. -/
def addMember (name : String) (index : Nat) (j : Json) (f : Fields) : Fields :=
  { f with members := (name, index, j) :: f.members }

/-- One more fault. -/
def addFault (index : Nat) (e : JsonError) (f : Fields) : Fields :=
  { f with faults := (index, e) :: f.faults }

/-- The fields among the members of an object from an index on, where some names were met before. -/
def ofMembers (known seen : List String) (index : Nat) (tail : MembersEnd) :
    List (Option String × Json) → Fields
  | [] =>
    match tail.fault? with
    | some e => ⟨[], [(index, e)], index⟩
    | none => ⟨[], [], index⟩
  | (none, _) :: rest => (ofMembers known seen (index + 1) tail rest).addFault index .malformed
  | (some name, j) :: rest =>
    if known.contains name then
      let more := ofMembers known (name :: seen) (index + 1) tail rest
      if seen.contains name then more.addFault index (.mismatch none)
      else more.addMember name index j
    else
      let more := ofMembers known seen (index + 1) tail rest
      match j.skipFault with
      | some e => more.addFault index e
      | none => more

/-- The fields in an array, which holds them in the order of their names. -/
def ofItems (known : List String) (items : List Json) (closed : Bool) : Fields :=
  let members := (known.zip items).zipIdx.map fun e => (e.1.1, e.2, e.1.2)
  let faults : List PlacedFault :=
    if known.length < items.length then [(known.length, .malformed)]
    else if closed then []
    else [(items.length, .truncated)]
  ⟨members, faults, items.length⟩

/-- The fields of a record with the given names. -/
def ofValue (known : List String) : Json → Except JsonError Fields
  | .obj members tail => .ok (ofMembers known [] 0 tail members)
  | .arr items closed => .ok (ofItems known items closed)
  | j => .error j.unexpected

end Fields

/-- What reading some fields gives: a value, unless there are faults. -/
structure Found (α : Type) where
  value : Option α
  faults : List PlacedFault

namespace Found

/-- A value that is read from no field. -/
def pure {α : Type} (a : α) : Found α := ⟨some a, []⟩

/-- Applies what some fields give to what others give. -/
def apply {α β : Type} (f : Found (α → β)) (a : Found α) : Found β :=
  ⟨match f.value, a.value with
    | some g, some x => some (g x)
    | _, _ => none,
   f.faults ++ a.faults⟩

end Found

/-- The earlier one of two faults. -/
def earlier (a b : PlacedFault) : PlacedFault :=
  if b.1 < a.1 then b else a

namespace Fields

/-- The value of a field that may be missing if there is a default. -/
def get {α : Type} (f : Fields) (name : String) (reader : Json → Except JsonError α)
    (default : Option α) : Found α :=
  match f.members.lookup name with
  | some (index, j) =>
    match reader j with
    | .ok a => .pure a
    | .error e => ⟨none, [(index, e)]⟩
  | none =>
    match default with
    | some a => .pure a
    | none => ⟨none, [(f.size + 1, .mismatch none)]⟩

/-- The value of the record, or its first fault. -/
def finish {α : Type} (f : Fields) (found : Found α) : Except JsonError α :=
  match f.faults ++ found.faults, found.value with
  | e :: rest, _ => .error (rest.foldl earlier e).2
  | [], some a => .ok a
  | [], none => .error (.mismatch none)

end Fields

end ShallowTransfer.Json
