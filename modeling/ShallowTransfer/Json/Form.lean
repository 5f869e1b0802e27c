import ShallowTransfer.Json.Record
import ShallowTransfer.Json.Render
import ShallowTransfer.Json.Text
import ShallowTransfer.OrderedMap

/-!
JSON forms: how values of a type are written as JSON and read from it. Here are the forms of
numbers, texts, lists, options and maps, and of names, which stand for the values of a finite type.
-/

namespace ShallowTransfer

/-- How values of a type are written as JSON and read from it. -/
class JsonForm (α : Type) where
  write : α → Json
  read : Json → Except JsonError α

namespace Json

/-- The natural number below a bound. -/
def readNat (bound : Nat) : Json → Except JsonError Nat
  | .int n => if 0 ≤ n && n.toNat < bound then .ok n.toNat else .error (.mismatch none)
  | j => .error j.unexpected

/-- The text of a string. -/
def readString : Json → Except JsonError String
  | .str s => .ok s
  | j => .error j.unexpected

/-- The truth value. -/
def readBool : Json → Except JsonError Bool
  | .bool b => .ok b
  | j => .error j.unexpected

/-- The value, or nothing for null. -/
def readOption {α : Type} (reader : Json → Except JsonError α) : Json → Except JsonError (Option α)
  | .null => .ok none
  | j => (reader j).map some

/-- The items of an array. -/
def readList {α : Type} (reader : Json → Except JsonError α) : Json → Except JsonError (List α)
  | .arr items closed =>
    match items.mapM reader with
    | .error e => .error e
    | .ok values => if closed then .ok values else .error .truncated
  | j => .error j.unexpected

/-- A key of a map with its value. -/
def readEntry {α : Type} (reader : Json → Except JsonError α) :
    Option String × Json → Except JsonError (String × α)
  | (none, _) => .error .malformed
  | (some k, j) => (reader j).map fun v => (k, v)

/-- The members of an object. A key that stands there twice keeps its first place and takes its last
value. -/
def readMap {α : Type} (reader : Json → Except JsonError α) :
    Json → Except JsonError (OrderedMap String α)
  | .obj members tail =>
    match members.mapM (readEntry reader), tail.fault? with
    | .error e, _ => .error e
    | .ok _, some e => .error e
    | .ok entries, none => .ok (OrderedMap.ofList entries)
  | j => .error j.unexpected

/-- The single member of an object that stands for a choice. -/
def choice (members : List (Option String × Json)) (tail : MembersEnd) :
    Except JsonError (String × Json) :=
  match members, tail with
  | (some name, j) :: _, _ => .ok (name, j)
  | (none, _) :: _, _ => .error .malformed
  | [], .closed => .error .malformed
  | [], .ended _ => .error .truncated
  | [], .brokenKey e => .error e
  | [], .noKey => .error .malformed

/-- Makes sure that an object that stands for a choice has no more than one member. -/
def closeChoice (members : List (Option String × Json)) (tail : MembersEnd) :
    Except JsonError Unit :=
  match members, tail with
  | [_], .closed => .ok ()
  | [_], .ended false => .error .truncated
  | _, _ => .error .malformed

/-- The fault of a value that stands for no choice. -/
def choiceFault : Json → JsonError
  | .broken e place => if place = .elsewhere then e else .malformed
  | _ => .malformed

/-- Null. -/
def readNull : Json → Except JsonError Unit
  | .null => .ok ()
  | j => .error j.unexpected

/-- The value with a name. The name may also be the key of a null. -/
def readName {α : Type} (names : List (String × α)) : Json → Except JsonError α
  | .str s =>
    match names.lookup s with
    | some a => .ok a
    | none => .error (.mismatch none)
  | .obj members tail => do
    let (name, j) ← choice members tail
    match names.lookup name with
    | none => .error (.mismatch none)
    | some a => do
      readNull j
      closeChoice members tail
      .ok a
  | j => .error (choiceFault j)

namespace Fields

/-- A field that has to be there. -/
def required {α : Type} [JsonForm α] (f : Fields) (name : String) : Found α :=
  f.get name JsonForm.read none

/-- A field that may be missing. -/
def optional {α : Type} [JsonForm α] (f : Fields) (name : String) (default : α) : Found α :=
  f.get name JsonForm.read (some default)

end Fields

end Json

instance : JsonForm String := ⟨Json.str, Json.readString⟩

instance : JsonForm Bool := ⟨Json.bool, Json.readBool⟩

instance : JsonForm UInt16 :=
  ⟨fun n => Json.nat n.toNat, fun j => (Json.readNat (Nat.pow 2 16) j).map UInt16.ofNat⟩

instance : JsonForm UInt32 :=
  ⟨fun n => Json.nat n.toNat, fun j => (Json.readNat (Nat.pow 2 32) j).map UInt32.ofNat⟩

instance : JsonForm UInt64 :=
  ⟨fun n => Json.nat n.toNat, fun j => (Json.readNat (Nat.pow 2 64) j).map UInt64.ofNat⟩

instance {α : Type} [JsonForm α] : JsonForm (Option α) :=
  ⟨fun o => (o.map JsonForm.write).getD .null, Json.readOption JsonForm.read⟩

instance {α : Type} [JsonForm α] : JsonForm (List α) :=
  ⟨fun xs => Json.array (xs.map JsonForm.write), Json.readList JsonForm.read⟩

instance {α : Type} [JsonForm α] : JsonForm (OrderedMap String α) :=
  ⟨fun m => Json.object (m.entries.map fun e => (e.1, JsonForm.write e.2)),
    Json.readMap JsonForm.read⟩

/-- Takes the verdict of a check as that of a reader. -/
def JsonError.ofConfig {α : Type} : Except ConfigError α → Except JsonError α
  | .ok a => .ok a
  | .error e => .error (.mismatch (some e))

end ShallowTransfer
