import ShallowTransfer.Error
import ShallowTransfer.OrderedMap

/-!
Binary forms: numbers have a fixed width and begin with their lowest byte, texts, lists and maps
begin with their length in eight bytes, an option begins with a byte that says whether a value
follows, and a choice is the number of the case in four bytes. A reader takes what it needs from the
front of the bytes and leaves the rest.
-/

namespace ShallowTransfer

/-- A row of bytes. -/
abbrev Bytes := List UInt8

/-- Reads a value from the front of bytes and leaves the rest. -/
abbrev WireReader (α : Type) := Bytes → Except WireError (α × Bytes)

namespace WireReader

/-- Reads nothing. -/
def pure {α : Type} (a : α) : WireReader α :=
  fun bytes => .ok (a, bytes)

/-- Refuses the bytes. -/
def fail {α : Type} (e : WireError) : WireReader α :=
  fun _ => .error e

/-- Reads one value behind another. -/
def bind {α β : Type} (r : WireReader α) (f : α → WireReader β) : WireReader β :=
  fun bytes =>
    match r bytes with
    | .ok (a, rest) => f a rest
    | .error e => .error e

instance : Monad WireReader where
  pure := WireReader.pure
  bind := WireReader.bind

/-- Takes the verdict of a check as that of a reader. -/
def ofConfig {α : Type} : Except ConfigError α → WireReader α
  | .ok a => WireReader.pure a
  | .error e => fail (.mismatch (some e))

/-- The next byte. -/
def byte : WireReader UInt8
  | [] => .error .unexpectedEnd
  | b :: rest => .ok (b, rest)

/-- The next bytes, as many as are asked for. -/
def bytes : Nat → WireReader Bytes
  | 0, rest => .ok ([], rest)
  | _ + 1, [] => .error .unexpectedEnd
  | n + 1, b :: rest =>
    match bytes n rest with
    | .ok (bs, rest') => .ok (b :: bs, rest')
    | .error e => .error e

/-- The number in the next bytes, as many as are asked for, the lowest first. -/
def number : Nat → WireReader Nat
  | 0 => WireReader.pure 0
  | n + 1 => byte.bind fun b => (number n).bind fun high => WireReader.pure (b.toNat + 256 * high)

/-- Values behind one another, as many as are asked for. -/
def many {α : Type} (r : WireReader α) : Nat → WireReader (List α)
  | 0 => WireReader.pure []
  | n + 1 => r.bind fun a => (many r n).bind fun more => WireReader.pure (a :: more)

/-- The text of bytes in UTF-8. -/
def textOf (bs : Bytes) : WireReader String :=
  match String.fromUTF8? ⟨bs.toArray⟩ with
  | some s => WireReader.pure s
  | none => fail .invalidText

/-- The text behind its length. -/
def text : WireReader String :=
  (number 8).bind fun n => (bytes n).bind textOf

/-- The truth value of a byte. -/
def flag : WireReader Bool :=
  byte.bind fun b =>
    if b = 0 then WireReader.pure false
    else if b = 1 then WireReader.pure true
    else fail .invalidFlag

/-- The value behind a byte that says that it is there. -/
def option {α : Type} (r : WireReader α) : WireReader (Option α) :=
  byte.bind fun b =>
    if b = 0 then WireReader.pure none
    else if b = 1 then r.bind fun a => WireReader.pure (some a)
    else fail .invalidOption

/-- The values behind their number. -/
def list {α : Type} (r : WireReader α) : WireReader (List α) :=
  (number 8).bind (many r)

/-- Two values behind one another. -/
def pair {α β : Type} (r : WireReader α) (s : WireReader β) : WireReader (α × β) :=
  r.bind fun a => s.bind fun b => WireReader.pure (a, b)

/-- The case of a choice behind its number. -/
def choice {α : Type} (cases : List (WireReader α)) : WireReader α :=
  (number 4).bind fun n =>
    match cases[n]? with
    | some r => r
    | none => fail (.mismatch none)

end WireReader

namespace Wire

/-- A number in the given count of bytes, the lowest first. -/
def number : Nat → Nat → Bytes
  | 0, _ => []
  | width + 1, n => UInt8.ofNat (n % 256) :: number width (n / 256)

/-- The bytes of a text in UTF-8. -/
def utf8 (s : String) : Bytes :=
  s.toUTF8.data.toList

/-- A text behind its length. -/
def text (s : String) : Bytes :=
  number 8 (utf8 s).length ++ utf8 s

/-- A truth value. -/
def flag (b : Bool) : Bytes :=
  [if b then 1 else 0]

/-- A value behind a byte that says that it is there. -/
def option {α : Type} (write : α → Bytes) : Option α → Bytes
  | none => [0]
  | some a => 1 :: write a

/-- Values behind their number. -/
def list {α : Type} (write : α → Bytes) (xs : List α) : Bytes :=
  number 8 xs.length ++ xs.flatMap write

/-- The number of a case. -/
def case (index : Nat) : Bytes :=
  number 4 index

end Wire

/-- How values of a type are written as bytes and read from them. -/
class WireForm (α : Type) where
  write : α → Bytes
  read : WireReader α

namespace WireForm

instance : WireForm String := ⟨Wire.text, WireReader.text⟩

instance : WireForm Bool := ⟨Wire.flag, WireReader.flag⟩

instance : WireForm UInt16 :=
  ⟨fun n => Wire.number 2 n.toNat,
    (WireReader.number 2).bind fun n => WireReader.pure (UInt16.ofNat n)⟩

instance : WireForm UInt32 :=
  ⟨fun n => Wire.number 4 n.toNat,
    (WireReader.number 4).bind fun n => WireReader.pure (UInt32.ofNat n)⟩

instance : WireForm UInt64 :=
  ⟨fun n => Wire.number 8 n.toNat,
    (WireReader.number 8).bind fun n => WireReader.pure (UInt64.ofNat n)⟩

instance {α : Type} [WireForm α] : WireForm (Option α) :=
  ⟨Wire.option write, WireReader.option read⟩

instance {α : Type} [WireForm α] : WireForm (List α) :=
  ⟨Wire.list write, WireReader.list read⟩

instance {α β : Type} [WireForm α] [WireForm β] : WireForm (α × β) :=
  ⟨fun p => write p.1 ++ write p.2, WireReader.pair read read⟩

instance {α β : Type} [DecidableEq α] [WireForm α] [WireForm β] : WireForm (OrderedMap α β) :=
  ⟨fun m => write m.entries,
    WireReader.bind read fun entries => WireReader.pure (OrderedMap.ofList entries)⟩

/-- The value of bytes; what follows it is ignored. -/
def decode {α : Type} [WireForm α] (bytes : Bytes) : Except WireError α :=
  match (read : WireReader α) bytes with
  | .ok (a, _) => .ok a
  | .error e => .error e

end WireForm

end ShallowTransfer
