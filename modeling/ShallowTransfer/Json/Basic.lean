import ShallowTransfer.Error

/-!
JSON values as far as their text could be read. A text that is faulty still has a value: up to the
fault it is what was written, and the fault stands where the text went wrong. A reader that takes
such a value apart in the order of the text meets its own complaint or the fault in the text,
whichever comes first.
-/

namespace ShallowTransfer

/-- How the members of an object end: with the closing brace, with the end of the text, inside of a
key, or with something that is no key. -/
inductive MembersEnd where
  | closed
  | ended (afterComma : Bool)
  | brokenKey (fault : JsonError)
  | noKey
deriving Repr, DecidableEq

/-- The fault that is met when the members of an object are read to their end. -/
def MembersEnd.fault? : MembersEnd → Option JsonError
  | .closed => none
  | .ended _ => some .truncated
  | .brokenKey fault => some fault
  | .noKey => some .malformed

/-- Where a value breaks off: in a word such as `true`, in a number that lacks a digit, or elsewhere. -/
inductive BreakPlace where
  | word
  | number
  | elsewhere
deriving Repr, DecidableEq

/-- A JSON value as far as its text could be read. Numbers that are no integers of 64 bits are told
apart only by whether they are in the range of floating point numbers. A string is garbled if an
escape in it is half of a character; it can be skipped unless it has a further fault. An array is
closed if its end was read. A broken value has the fault that is met when it is read. -/
inductive Json where
  | null
  | bool (b : Bool)
  | int (n : Int)
  | real (finite : Bool)
  | str (s : String)
  | garbled (fault : Option JsonError)
  | arr (items : List Json) (closed : Bool)
  | obj (members : List (Option String × Json)) (tail : MembersEnd)
  | broken (fault : JsonError) (place : BreakPlace)
deriving Repr

namespace Json

/-- The array of the given values. -/
def array (items : List Json) : Json :=
  .arr items true

/-- The object with the given members. -/
def object (members : List (String × Json)) : Json :=
  .obj (members.map fun m => (some m.1, m.2)) .closed

/-- A number. -/
def nat (n : Nat) : Json :=
  .int (Int.ofNat n)

/-- A JSON number does not fit into a floating point number from this bound on. -/
def realBound : Nat := Nat.pow 2 1024 - Nat.pow 2 970

/-- The fault that is reported when a value is not of the type that is wanted. -/
def unexpected : Json → JsonError
  | .broken fault _ => fault
  | .garbled _ => .malformed
  | .real false => .malformed
  | _ => .mismatch none

mutual

/-- The first fault that is met when a value is skipped. A number that lacks a digit is faulty
then, even if the text ends there. -/
def skipFault : Json → Option JsonError
  | .broken fault place => some (if place = .number then .malformed else fault)
  | .garbled fault => fault
  | .arr items closed =>
    match skipFaultItems items with
    | some fault => some fault
    | none => if closed then none else some .truncated
  | .obj members tail =>
    match skipFaultMembers members with
    | some fault => some fault
    | none => tail.fault?
  | _ => none

/-- The first fault that is met when the items of an array are skipped. -/
def skipFaultItems : List Json → Option JsonError
  | [] => none
  | j :: rest =>
    match skipFault j with
    | some fault => some fault
    | none => skipFaultItems rest

/-- The first fault that is met when the members of an object are skipped. -/
def skipFaultMembers : List (Option String × Json) → Option JsonError
  | [] => none
  | (_, j) :: rest =>
    match skipFault j with
    | some fault => some fault
    | none => skipFaultMembers rest

end

end Json

end ShallowTransfer
